import MailFilter.Table

/-!
The words of a simple filter: its operators, the fields its conditions look at, its comparators,
and the label each word is shown under.
-/

namespace MailFilter

inductive Operator where
  | all
  | any
  deriving DecidableEq, Repr, Inhabited

/-- What a condition looks at; `unknown` when its test names no field that filters know. -/
inductive Field where
  | attachments
  | recipient
  | sender
  | subject
  | unknown
  deriving DecidableEq, Repr, Inhabited

inductive MatchWord where
  | is
  | contains
  | matches
  | starts
  | ends
  deriving DecidableEq, Repr, Inhabited

structure Comparator where
  word : MatchWord
  negated : Bool
  deriving DecidableEq, Repr, Inhabited

def Operator.token : Operator → String
  | .all => "all"
  | .any => "any"

def Field.token : Field → String
  | .attachments => "attachments"
  | .recipient => "recipient"
  | .sender => "sender"
  | .subject => "subject"
  | .unknown => ""

def MatchWord.token : MatchWord → String
  | .is => "is"
  | .contains => "contains"
  | .matches => "matches"
  | .starts => "starts"
  | .ends => "ends"

def Comparator.token (c : Comparator) : String :=
  (if c.negated then "!" else "") ++ c.word.token

def operatorTags : Table Operator String := [(.all, "allof"), (.any, "anyof")]

def matchTags : Table MatchWord String := [
  (.is, "Is"), (.contains, "Contains"), (.matches, "Matches"), (.starts, "Starts"),
  (.ends, "Ends")]

def annotationWords : Table String Operator := [("and", .all), ("or", .any)]

def Operator.ofTag? (tag : String) : Option Operator := operatorTags.inverse.lookup tag

def MatchWord.ofTag? (tag : String) : Option MatchWord := matchTags.inverse.lookup tag

def labels : Table String String := [
  ("all", "All"),
  ("any", "Any"),
  ("attachments", "Attachments"),
  ("recipient", "Recipient"),
  ("sender", "Sender"),
  ("subject", "Subject"),
  ("contains", "contains"),
  ("is", "is exactly"),
  ("matches", "matches"),
  ("starts", "begins with"),
  ("ends", "ends with"),
  ("!contains", "does not contain"),
  ("!is", "is not"),
  ("!matches", "does not match"),
  ("!starts", "does not begin with"),
  ("!ends", "does not end with")]

structure Labelled where
  label : String
  value : String
  deriving DecidableEq, Repr, Inhabited

def labelled (word : String) : Labelled := ⟨(labels.lookup word).getD "", word⟩

def defaultExtensions : List String := ["fileinto", "imap4flags"]

def defaultTrash : String := "trash"

end MailFilter
