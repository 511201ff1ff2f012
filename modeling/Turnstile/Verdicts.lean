import Turnstile.Decision
import Turnstile.Document.Decode

/-! Decisions and outcomes in documents. A decision is a table whose field `decision` names it and
whose field `value` holds the reason or the route; it may also be a list of the two. An outcome is a
table whose field `outcome` names it, beside the field `route` or `reason`; or a list of its name and
the route or reason. Other fields are ignored in both. -/
namespace Turnstile

def Reason.toNode (reason : Reason) : Node := .text reason.code

def Route.toNode (route : Route) : Node := .text route.name

def Decision.toNode : Decision → Node
  | .proceed => .tableOf [("decision", .text "continue")]
  | .reject reason => .tableOf [("decision", .text "reject"), ("value", reason.toNode)]
  | .terminate route => .tableOf [("decision", .text "terminate"), ("value", route.toNode)]

def Outcome.toNode : Outcome → Node
  | .granted route => .tableOf [("outcome", .text "granted"), ("route", route.toNode)]
  | .denied reason => .tableOf [("outcome", .text "denied"), ("reason", reason.toNode)]

namespace Decode

def reason : Decoder Reason := choice Reason.all Reason.code

def route : Decoder Route := choice Route.all Route.name

/-- How many levels a value may have that is taken in before it is looked at. -/
def levels : Nat := 126

/-- Takes in a value whole, to look at it later. -/
def takeIn (node : Node) : Except DecodeError Node := do
  Fault.check (node.takeIn levels)
  .ok node

/-- One of several named values, out of a value that was taken in whole. -/
def choiceTakenIn (values : List α) (nameOf : α → String) : Node → Except DecodeError α
  | .text name => named values nameOf name
  | .table [(.named name, value)] _ => do
    let chosen ← named values nameOf name
    match value with
    | .null => .ok chosen
    | .table [] _ => .ok chosen
    | value => .error (value.unlike .json "unit")
  | .table .. => .error (.misfit .notOneVariant)
  | node => .error (node.unlike .json "string or map")

/-- The name of a decision, without its reason or route. -/
inductive DecisionTag where
  | proceed
  | reject
  | terminate
  deriving DecidableEq, Repr

namespace DecisionTag

def all : List DecisionTag := [proceed, reject, terminate]

def name : DecisionTag → String
  | proceed => "continue"
  | reject => "reject"
  | terminate => "terminate"

/-- Reads the reason or the route that goes with the name. -/
def content (tag : DecisionTag) (node : Node) : Except DecodeError Decision :=
  match tag with
  | proceed =>
    match node with
    | .null => .ok .proceed
    | node => .error (node.unlike .json "unit variant Decision::Continue")
  | reject => (reason .json node).map .reject
  | terminate => (route .json node).map .terminate

/-- Reads the reason or the route that goes with the name, out of a value that was taken in whole. -/
def contentTakenIn (tag : DecisionTag) (node : Node) : Except DecodeError Decision :=
  match tag with
  | proceed => content .proceed node
  | reject => (choiceTakenIn Reason.all Reason.code node).map .reject
  | terminate => (choiceTakenIn Route.all Route.name node).map .terminate

/-- The decision that is complete without a reason or a route. -/
def alone : DecisionTag → Except DecodeError Decision
  | proceed => .ok .proceed
  | _ => .error (.misfit (.missingField "value"))

end DecisionTag

def decisionTag : Decoder DecisionTag := choice DecisionTag.all DecisionTag.name

/-- One of several named values, by its plain name only. -/
def tagName (values : List α) (nameOf : α → String) : Node → Except DecodeError α
  | .text name => named values nameOf name
  | node => .error (node.unlike .json "variant identifier")

/-- The fields of a table from the next one on that a decision has. -/
inductive Relevant where
  | tag (value : Node) (rest : List (Key × Node))
  | content (value : Node) (rest : List (Key × Node))
  | done

/-- Passes over the fields that a decision does not have. -/
def relevant (ending : Option Fault) : List (Key × Node) → Except DecodeError Relevant
  | [] => do
    Fault.check ending
    .ok .done
  | (.faulty used _, _) :: _ => .error (.fault used)
  | (.named name, value) :: rest =>
    if name = "decision" then .ok (.tag value rest)
    else if name = "value" then .ok (.content value rest)
    else do
      Fault.check value.skip
      relevant ending rest

/-- Makes sure that neither field of a decision comes again. -/
def noneAgain (ending : Option Fault) (entries : List (Key × Node)) : Except DecodeError Unit := do
  match ← relevant ending entries with
  | .tag _ _ => .error (.misfit (.repeatedField "decision"))
  | .content _ _ => .error (.misfit (.repeatedField "value"))
  | .done => .ok ()

/-- A decision out of the fields of a table. If the reason or route comes before the name, it is taken
in whole and looked at later. -/
def decisionFields (ending : Option Fault) (entries : List (Key × Node)) :
    Except DecodeError Decision := do
  match ← relevant ending entries with
  | .tag value rest =>
    let tag ← decisionTag .json value
    match ← relevant ending rest with
    | .tag _ _ => .error (.misfit (.repeatedField "decision"))
    | .content value rest =>
      let decision ← tag.content value
      noneAgain ending rest
      .ok decision
    | .done => tag.alone
  | .content value rest =>
    let content ← takeIn value
    match ← relevant ending rest with
    | .tag value rest =>
      let tag ← decisionTag .json value
      let decision ← tag.contentTakenIn content
      noneAgain ending rest
      .ok decision
    | .content _ _ => .error (.misfit (.repeatedField "value"))
    | .done => .error (.misfit (.missingField "decision"))
  | .done => .error (.misfit (.missingField "decision"))

/-- What a decision is called in objections. -/
def decisionWords : String := "adjacently tagged enum Decision"

/-- Reads a decision. -/
def decision : Node → Except DecodeError Decision
  | .table entries ending => decisionFields ending entries
  | .list [] ending => do
    Fault.check ending
    .error (.misfit (.wrongLength 0 decisionWords))
  | .list (first :: rest) ending => do
    let tag ← tagName DecisionTag.all DecisionTag.name first
    match rest with
    | [] =>
      Fault.check ending
      .error (.misfit (.wrongLength 1 decisionWords))
    | second :: more =>
      let decision ← tag.content second
      if more.isEmpty then
        Fault.check ending
        .ok decision
      else .error (.fault .malformed)
  | node => .error (node.unlike .json decisionWords)

/-- The name of an outcome, without its route or reason. -/
inductive OutcomeTag where
  | granted
  | denied
  deriving DecidableEq, Repr

namespace OutcomeTag

def all : List OutcomeTag := [granted, denied]

def name : OutcomeTag → String
  | granted => "granted"
  | denied => "denied"

/-- The field beside the name. -/
def field : OutcomeTag → String
  | granted => "route"
  | denied => "reason"

/-- What the fields are called in objections. -/
def words : OutcomeTag → String
  | granted => "struct variant LoginOutcome::Granted with 1 element"
  | denied => "struct variant LoginOutcome::Denied with 1 element"

/-- Reads the route or the reason that goes with the name. -/
def content (tag : OutcomeTag) (node : Node) : Except DecodeError Outcome :=
  match tag with
  | granted => (choiceTakenIn Route.all Route.name node).map .granted
  | denied => (choiceTakenIn Reason.all Reason.code node).map .denied

end OutcomeTag

def outcomeTag : Node → Except DecodeError OutcomeTag := tagName OutcomeTag.all OutcomeTag.name

/-- The name of an outcome, and its other fields taken in whole. -/
def outcomeFields (ending : Option Fault) (tag : Option OutcomeTag) :
    List (Key × Node) → Except DecodeError (OutcomeTag × List (String × Node))
  | [] => do
    Fault.check ending
    match tag with
    | some tag => .ok (tag, [])
    | none => .error (.misfit (.missingField "outcome"))
  | (.faulty used _, _) :: _ => .error (.fault used)
  | (.named name, value) :: rest =>
    if name = "outcome" then
      if tag.isSome then .error (.misfit (.repeatedField "outcome"))
      else do
        let tag ← outcomeTag value
        outcomeFields ending (some tag) rest
    else do
      let value ← takeIn value
      let (tag, others) ← outcomeFields ending tag rest
      .ok (tag, (name, value) :: others)

/-- The outcome with this name, out of the fields of its table. -/
def outcomeNamed (tag : OutcomeTag) :
    (found : Option Outcome) → List (String × Node) → Except DecodeError Outcome
  | some outcome, [] => .ok outcome
  | none, [] => .error (.misfit (.missingField tag.field))
  | found, (name, value) :: rest =>
    if name = tag.field then
      if found.isSome then .error (.misfit (.repeatedField name))
      else do
        let outcome ← tag.content value
        outcomeNamed tag (some outcome) rest
    else outcomeNamed tag found rest

/-- Takes in the items of a list. -/
def takeInItems : List Node → Except DecodeError Unit
  | [] => .ok ()
  | item :: rest => do
    let _ ← takeIn item
    takeInItems rest

/-- Reads an outcome. All but its name is taken in whole and looked at later. -/
def outcome : Node → Except DecodeError Outcome
  | .table entries ending => do
    let (tag, others) ← outcomeFields ending none entries
    outcomeNamed tag none others
  | .list [] ending => do
    Fault.check ending
    .error (.misfit (.missingField "outcome"))
  | .list (first :: rest) ending => do
    let tag ← outcomeTag first
    takeInItems rest
    Fault.check ending
    match rest with
    | [] => .error (.misfit (.wrongLength 0 tag.words))
    | second :: more =>
      let outcome ← tag.content second
      if more.isEmpty then .ok outcome
      else .error (.misfit (.wrongLength rest.length "1 element in sequence"))
  | node => .error (node.unlike .json "internally tagged enum LoginOutcome")

end Decode

end Turnstile
