import Listing.Template.Tree

namespace Listing

inductive ListingKind
  | issues
  | labels
  | config
  deriving DecidableEq

namespace ListingKind

def all : List ListingKind := [issues, labels, config]

def name : ListingKind → Text
  | issues => "issues"
  | labels => "labels"
  | config => "config"

end ListingKind

structure Formats where
  issues : Text
  labels : Text
  config : Text
  deriving DecidableEq

namespace Formats

def standard : Formats where
  issues := ("[auto:$+number] [auto:$assignee+] $title " : Text) ++
    ("?labels\x7b[Issue_Par:(]@labels\x7b[auto:$label]@, \x7d[Issue_Par:)]\x7d" : Text)
  labels := "[auto:$name]"
  config := "[auto:$key]=$value"

def get (f : Formats) : ListingKind → Text
  | .issues => f.issues
  | .labels => f.labels
  | .config => f.config

def set (f : Formats) (kind : ListingKind) (format : Text) : Formats :=
  match kind with
  | .issues => { f with issues := format }
  | .labels => { f with labels := format }
  | .config => { f with config := format }

end Formats

/-- In a format that a user writes, a backslash before an `n` stands with it for a newline. -/
def readNewlines : Text → Text
  | [] => []
  | '\\' :: 'n' :: t => '\n' :: readNewlines t
  | c :: t => c :: readNewlines t

structure FormatError where
  kind : ListingKind
  error : Malformed
  deriving DecidableEq

def FormatError.message (e : FormatError) : Text :=
  ("invalid " : Text) ++ e.kind.name ++ (" format: " : Text) ++ e.error.message ++ ['\n'] ++
    e.error.excerpt

def checkTemplate (kind : ListingKind) (format : Text) : Except FormatError Unit :=
  (Template.validate format).mapError (FormatError.mk kind)

end Listing
