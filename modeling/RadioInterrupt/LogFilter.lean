import RadioInterrupt.Message
import RadioInterrupt.Pattern.Compile

/-!
Filters for the log.

A filter is a list of directives, each a threshold for the sources whose path starts with a given
text, or for all sources.  For a message the longest matching directive decides, and a message that
none matches is not shown.  A filter may also have a pattern, which must occur in the messages that
are shown.

In a setting the directives stand between commas, with the pattern behind a slash.  What cannot be
read is left out, with a complaint.
-/

namespace RadioInterrupt

inductive Threshold where
  | off
  | error
  | warn
  | info
  | debug
  | trace
  deriving DecidableEq, Repr

namespace Threshold

def all : List (String × Threshold) :=
  [("off", .off), ("error", .error), ("warn", .warn), ("info", .info), ("debug", .debug),
   ("trace", .trace)]

def ofName? (name : String) : Option Threshold :=
  all.lookup (name.map Char.toLower)

def verbosity : Threshold → Nat
  | .off => 0
  | .error => 1
  | .warn => 2
  | .info => 3
  | .debug => 4
  | .trace => 5

def admits (threshold : Threshold) (level : Level) : Bool :=
  level.verbosity ≤ threshold.verbosity

end Threshold

inductive Complaint where
  | unreadable (part : String)
  | tooManySlashes (setting : String)
  | badPattern (text : String) (fault : Pattern.Fault)
  deriving DecidableEq, Repr

namespace Complaint

def text : Complaint → String
  | .unreadable part => "invalid logging spec '" ++ part ++ "'"
  | .tooManySlashes setting => "invalid logging spec '" ++ setting ++ "' (too many '/'s)"
  | .badPattern text fault => "invalid regex filter - " ++ fault.describe text

def warning (complaint : Complaint) : String :=
  "warning: " ++ complaint.text ++ ", ignoring it"

end Complaint

structure Directive where
  target : Option String
  threshold : Threshold
  deriving DecidableEq, Repr

namespace Directive

/-- Reads one directive: a threshold, a target, or a target, an equals sign and a threshold.  A
target alone lets everything through. -/
def ofText (text : String) : Except Complaint Directive :=
  match text.splitOn "=" with
  | [part] =>
      .ok (match Threshold.ofName? part with
        | some threshold => ⟨none, threshold⟩
        | none => ⟨some part, .trace⟩)
  | [target, level] =>
      let level := Text.trim level
      if level = "" then .ok ⟨some target, .trace⟩
      else
        match Threshold.ofName? level with
        | some threshold => .ok ⟨some target, threshold⟩
        | none => .error (.unreadable level)
  | _ => .error (.unreadable text)

def applies (directive : Directive) (path : String) : Bool :=
  directive.target.all fun target => target.isPrefixOf path

def size (directive : Directive) : Nat :=
  directive.target.elim 0 String.utf8ByteSize

end Directive

structure LogFilter where
  directives : List Directive
  pattern : Option Pattern := none
  deriving DecidableEq, Repr

namespace LogFilter

def insert (directives : List Directive) (directive : Directive) : List Directive :=
  if directives.any fun other => other.target = directive.target then
    directives.map fun other => if other.target = directive.target then directive else other
  else directives ++ [directive]

def ofDirectives (directives : List Directive) (pattern : Option Pattern) : LogFilter :=
  let directives := directives.foldl insert []
  ⟨if directives.isEmpty then [⟨none, .error⟩] else directives, pattern⟩

def readDirectives (text : String) : List Directive × List Complaint :=
  let items := ((text.splitOn ",").map Text.trim).filter fun item => item ≠ ""
  items.foldr (fun item (directives, complaints) =>
    match Directive.ofText item with
    | .ok directive => (directive :: directives, complaints)
    | .error complaint => (directives, complaint :: complaints)) ([], [])

def ofText (text : String) : LogFilter × List Complaint :=
  match text.splitOn "/" with
  | [items] =>
      let (directives, complaints) := readDirectives items
      (ofDirectives directives none, complaints)
  | [items, pattern] =>
      let (directives, complaints) := readDirectives items
      match Pattern.ofText pattern with
      | .ok found => (ofDirectives directives (some found), complaints)
      | .error fault => (ofDirectives directives none, complaints ++ [.badPattern pattern fault])
  | _ => (ofDirectives [] none, [.tooManySlashes text])

def ofSetting (setting : Option String) : LogFilter × List Complaint :=
  ofText (setting.getD "info")

/-- Of the directives that apply, the longest; of several of one length, the last. -/
def deciding? (filter : LogFilter) (path : String) : Option Directive :=
  (filter.directives.filter fun directive => directive.applies path).foldl
    (fun best directive =>
      match best with
      | none => some directive
      | some found => if found.size ≤ directive.size then some directive else best) none

def shows (filter : LogFilter) (message : Message) : Bool :=
  (filter.deciding? message.source.path).any (fun directive =>
    directive.threshold.admits message.level) &&
    filter.pattern.all fun pattern => pattern.occursIn message.text

def line (message : Message) : String :=
  let level := message.level.name
  level ++ String.ofList (List.replicate (5 - level.length) ' ') ++ " " ++ message.source.path ++
    "] " ++ message.text

def lines (filter : LogFilter) (log : List Message) : List String :=
  (log.filter filter.shows).map line

end LogFilter

end RadioInterrupt
