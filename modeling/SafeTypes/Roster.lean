import SafeTypes.Catalog
import SafeTypes.Log
import SafeTypes.Table

/-! A roster collects the records of safe types and is then closed, which finishes the
table. The last record for a name wins, and a closed roster takes no more records. -/
namespace SafeTypes

/-- Why a roster takes no record. -/
inductive Roster.Refusal where
  | alreadyClosed
  | defective (defect : CatalogDefect)
  deriving DecidableEq

def Roster.Refusal.diagnostic : Refusal → Diagnostic
  | .alreadyClosed => .rosterClosed
      { message := "ThreadSafeTypesBuilder is single-use; build() was already called"
        code := .rosterClosed
        hint := "create a new builder" }
  | .defective defect => .catalogDefect defect

/-- The records so far under their names, and the events that led to them. -/
structure Roster where
  entries : Table SafeType := .empty
  isClosed : Bool := false
  log : Log := []
  deriving DecidableEq

namespace Roster

/-- Stores a record under its name. It is an event only if the record takes the place
of another. -/
def store (roster : Roster) (record : SafeType) : Roster where
  entries := roster.entries.insert record.name record
  isClosed := roster.isClosed
  log := match roster.entries.get? record.name with
    | some previous => roster.log ++ [.overriding previous record]
    | none => roster.log

/-- Enters a type by name. Its parameters are trusted. -/
def enterName (roster : Roster) (name : String) (containerOf : List String) :
    Except Refusal Roster :=
  if roster.isClosed then .error .alreadyClosed
  else .ok (roster.store ⟨name, containerOf⟩)

/-- Enters a class if it declares all the parameters. -/
def enterClass (roster : Roster) (target : Class) (containerOf : List String) :
    Except Refusal Roster :=
  if roster.isClosed then .error .alreadyClosed
  else match target.undeclared containerOf with
    | [] => .ok (roster.store ⟨target.qualifiedName, containerOf⟩)
    | undeclared => .error (.defective ⟨target.qualifiedName, undeclared, target.declared⟩)

def enterEntry (roster : Roster) (entry : Catalog.Entry) : Except Refusal Roster :=
  match entry.target with
  | .ofClass target => roster.enterClass target entry.containerOf
  | .named name => roster.enterName name entry.containerOf

/-- Enters items one after another up to the first refusal, and keeps what came before
it. -/
def enterEach {Item : Type} (enter : Roster → Item → Except Refusal Roster) (roster : Roster) :
    List Item → Roster × Option Refusal
  | [] => (roster, none)
  | item :: rest =>
      match enter roster item with
      | .ok next => enterEach enter next rest
      | .error refusal => (roster, some refusal)

def enterNames (roster : Roster) (names : List String) : Roster × Option Refusal :=
  enterEach (fun roster name => roster.enterName name []) roster names

def enterClasses (roster : Roster) (targets : List Class) : Roster × Option Refusal :=
  enterEach (fun roster target => roster.enterClass target []) roster targets

def enterCatalog (roster : Roster) (catalog : Catalog) : Roster × Option Refusal :=
  enterEach enterEntry roster catalog

/-- Closes the roster. Closing it again changes nothing. -/
def close (roster : Roster) : Roster :=
  if roster.isClosed then roster
  else { roster with
    isClosed := true
    log := roster.log ++ [.closed roster.entries.size] }

/-- The finished table, which a roster has once it is closed. -/
def table? (roster : Roster) : Option (Table SafeType) :=
  if roster.isClosed then some roster.entries else none

/-- The finished table is read-only. This is said to whoever assigns to it. -/
def assignmentRefusal : String :=
  "'mappingproxy' object does not support item assignment"

/-- What can be asked of a roster. -/
inductive Call where
  | enterName (name : String) (containerOf : List String)
  | enterClass (target : Class) (containerOf : List String)
  | enterNames (names : List String)
  | enterClasses (targets : List Class)
  | enterCatalog (catalog : Catalog)
  | close
  deriving DecidableEq

/-- The roster after one attempt. A refusal leaves it as it was. -/
def after (roster : Roster) : Except Refusal Roster → Roster × Option Refusal
  | .ok next => (next, none)
  | .error refusal => (roster, some refusal)

/-- Answers one call. -/
def answer (roster : Roster) : Call → Roster × Option Refusal
  | .enterName name containerOf => roster.after (roster.enterName name containerOf)
  | .enterClass target containerOf => roster.after (roster.enterClass target containerOf)
  | .enterNames names => roster.enterNames names
  | .enterClasses targets => roster.enterClasses targets
  | .enterCatalog catalog => roster.enterCatalog catalog
  | .close => (roster.close, none)

/-- The roster after a run of calls, refused or not. -/
def run (roster : Roster) (calls : List Call) : Roster :=
  calls.foldl (fun roster call => (roster.answer call).1) roster

theorem enterEach_append {Item : Type} (enter : Roster → Item → Except Refusal Roster)
    (roster : Roster) (first second : List Item) :
    enterEach enter roster (first ++ second) =
      match enterEach enter roster first with
      | (next, none) => enterEach enter next second
      | (next, some refusal) => (next, some refusal) := by
  induction first generalizing roster with
  | nil => rfl
  | cons item rest ih =>
      cases h : enter roster item with
      | ok next => simpa [enterEach, h] using ih next
      | error refusal => simp [enterEach, h]

theorem close_close (roster : Roster) : roster.close.close = roster.close := by
  cases h : roster.isClosed with
  | true => simp [close, h]
  | false => simp [close, h]

end Roster

end SafeTypes
