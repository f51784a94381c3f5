import Listing.Paint.Sink
import Listing.Proofs.Outcome

namespace Listing

variable {ε : Type}

def endLines (lines : List Text) : Text := lines.flatMap (· ++ ['\n'])

namespace Sink

/-- A text can be written in pieces, of which none is written after one that was not taken. -/
theorem write_append (s : Sink) (a b : Text) :
    s.write (a ++ b) =
      match s.write a with
      | (s, true) => s.write b
      | (s, false) => (s, false) := by
  obtain ⟨written, room⟩ := s
  cases room with
  | none => simp only [write, Text.utf8_append, List.append_assoc]
  | some n =>
    simp only [write, Text.utf8_append, List.length_append, List.take_append]
    by_cases h : a.utf8.length ≤ n
    · have hroom : n - (a.utf8.length + b.utf8.length) = n - a.utf8.length - b.utf8.length := by
        omega
      have hfits : a.utf8.length + b.utf8.length ≤ n ↔ b.utf8.length ≤ n - a.utf8.length := by
        omega
      simp only [h, List.take_of_length_le h, hroom, hfits, decide_true, List.append_assoc]
    · have hroom : n - (a.utf8.length + b.utf8.length) = n - a.utf8.length := by omega
      have hnone : n - a.utf8.length = 0 := by omega
      have hfull : ¬a.utf8.length + b.utf8.length ≤ n := by omega
      simp only [h, hroom, hnone, hfull, decide_false, List.take_zero, List.append_nil]

theorem write_nil (s : Sink) : s.write [] = (s, true) := by
  obtain ⟨written, room⟩ := s
  cases room <;> simp [write, Text.utf8]

theorem putLines_eq_write (s : Sink) (lines : List Text) :
    s.putLines lines = s.write (endLines lines) := by
  induction lines generalizing s with
  | nil => exact s.write_nil.symm
  | cons line lines ih =>
    have hcons : endLines (line :: lines) = line ++ ['\n'] ++ endLines lines := rfl
    rw [putLines, hcons, write_append s (line ++ ['\n'])]
    rcases s.write (line ++ ['\n']) with ⟨s', _ | _⟩
    · rfl
    · exact ih s'

theorem putLines_room (written : List UInt8) (n : Nat) (lines : List Text) :
    (⟨written, some n⟩ : Sink).putLines lines =
      (⟨written ++ (endLines lines).utf8.take (min n (endLines lines).utf8.length),
          some (n - (endLines lines).utf8.length)⟩,
        decide ((endLines lines).utf8.length ≤ n)) := by
  rw [putLines_eq_write, ← List.take_eq_take_min]
  rfl

end Sink

/-- Printing of lines that are all made before one of them is written. When they cannot be made,
nothing is written. Otherwise their bytes are written up to the room of the sink, which need not end
with a line or with a character, and nothing but a lack of room is an error then. -/
structure WritesWhole (made : Except ε (List Text)) (fails : ε → Prop) (full : ε)
    (print : Sink → Sink × Except ε Unit) : Prop where
  made_eq_error_iff : ∀ e, made = .error e ↔ fails e
  untouched : ∀ e s, fails e → print s = (s, .error e)
  written : ∀ lines written n, made = .ok lines →
    (print ⟨written, some n⟩).1.written =
      written ++ (endLines lines).utf8.take (min n (endLines lines).utf8.length)
  eq_ok_iff : ∀ lines written n, made = .ok lines →
    ((print ⟨written, some n⟩).2 = .ok () ↔ (endLines lines).utf8.length ≤ n)
  eq_full : ∀ lines written n, made = .ok lines → n < (endLines lines).utf8.length →
    (print ⟨written, some n⟩).2 = .error full
  unlimited : ∀ lines written, made = .ok lines →
    print ⟨written, none⟩ = (⟨written ++ (endLines lines).utf8, none⟩, .ok ())

theorem WritesWhole.of_putLines {made : Except ε (List Text)} {fails : ε → Prop} {full : ε}
    {print : Sink → Sink × Except ε Unit} (hfails : ∀ e, made = .error e ↔ fails e)
    (herror : ∀ e s, made = .error e → print s = (s, .error e))
    (hok : ∀ lines s, made = .ok lines →
      print s = ((s.putLines lines).1, if (s.putLines lines).2 then .ok () else .error full)) :
    WritesWhole made fails full print := by
  have hroom (lines : List Text) (written : List UInt8) (n : Nat) (h : made = .ok lines) :
      print ⟨written, some n⟩ =
        (⟨written ++ (endLines lines).utf8.take (min n (endLines lines).utf8.length),
            some (n - (endLines lines).utf8.length)⟩,
          if (endLines lines).utf8.length ≤ n then .ok () else .error full) := by
    simp only [hok lines _ h, Sink.putLines_room, decide_eq_true_eq]
  constructor
  · exact hfails
  · exact fun e s he => herror e s ((hfails e).2 he)
  · intro lines written n h
    rw [hroom lines written n h]
  · intro lines written n h
    rw [hroom lines written n h]
    simp
  · intro lines written n h hn
    rw [hroom lines written n h, if_neg (Nat.not_le.2 hn)]
  · intro lines written h
    rw [hok lines _ h, Sink.putLines_eq_write]
    rfl

theorem writesWhole_printLine (p : Palette) (m : PaintMode) (t : Text) :
    WritesWhole ((fun line => [line]) <$> (paint p m t).mapError .unknownColor)
      (fun e => ∃ d, paint p m t = .error d ∧ e = .unknownColor d) .full
      (fun s => printLine p m s t) := by
  apply WritesWhole.of_putLines
  · intro e
    rw [← mapError_eq_error_iff]
    exact ⟨map_eq_error, fun h => by rw [h]; rfl⟩
  · intro e s h
    obtain ⟨d, hd, rfl⟩ := mapError_eq_error_iff.1 (map_eq_error h)
    rw [printLine, hd]
  · intro lines s h
    obtain ⟨line, hline, rfl⟩ := map_eq_ok h
    simp only [printLine, mapError_eq_ok hline]
    rcases s.putLines [line] with ⟨s', _ | _⟩ <;> rfl

end Listing
