import Turnstile.Proofs.Counters
import Turnstile.Proofs.KnownGates

/-! Services whose stores count in place and that share one recorder. Logins are carried out one after
another, and each meets the numbers that those before it left. No answer depends on these numbers, and what
a login adds to them does not either, so the order of logins shows in no result and in no number. -/
namespace Turnstile

/-- The numbers that logins meet and change. Every store has a row for each kind of question, and shares
it with all stores of the same label. -/
@[ext]
structure Books where
  calls : Nat → QueryKind → Nat
  recorder : Recorder

namespace Books
variable (books : Books)

/-- With one more question at the store with this label. -/
def tally (label : Nat) (kind : QueryKind) : Books :=
  { books with calls := fun l k =>
      if label = l ∧ kind = k then books.calls l k + 1 else books.calls l k }

def record (measurements : List Measurement) : Books :=
  { books with recorder := books.recorder.record measurements }

/-- With all that is told of in the trace. -/
def after (trace : List Effect) : Books where
  calls label kind := books.calls label kind + Trace.calls label kind trace
  recorder := books.recorder.record (Trace.measurements trace)

@[simp] lemma after_nil : books.after [] = books := by
  ext <;> simp [after, Trace.calls, Trace.queries, Trace.measurements, Recorder.record]

lemma after_append (before rest : List Effect) :
    books.after (before ++ rest) = (books.after before).after rest := by
  ext <;> simp [after, Trace.calls_append, Recorder.record, Nat.add_assoc]

@[simp] lemma after_log_cons (entry : Log.Entry) (trace : List Effect) :
    books.after (.log entry :: trace) = books.after trace := rfl

lemma after_query (label : Nat) (query : Query) (answer : Except StoreError Bool) :
    books.after [.query label query answer] = books.tally label query.kind := by
  ext l k
  · by_cases hl : label = l <;> by_cases hk : query.kind = k <;>
      simp [after, tally, Trace.calls, Trace.queries, hl, hk]
  all_goals simp [after, tally, Trace.measurements, Recorder.record]

lemma after_measurements (ms : List Measurement) :
    books.after (ms.map .measure) = books.record ms := by
  ext <;> simp [after, record, Trace.calls, Trace.queries_map_measure, Trace.measurements_map_measure]

end Books

lemma Recorder.record_nil (r : Recorder) : r.record [] = r := by
  simp [record]

/-- A store of users, a store that is down, or a counting store around one of these kinds. -/
inductive Backing where
  | memory (label : Nat) (users : Users)
  | down (label : Nat) (note : String)
  | counting (label : Nat) (inner : Backing)

namespace Backing

def store : Backing → Store
  | memory label users => .inMemory label users
  | down label note => .failing label note
  | counting label inner => .counting label inner.store

/-- Asks the store. A counting store raises its number before it passes the question on. -/
def ask (query : Query) : Backing → Books → Except StoreError Bool × Books
  | memory label users, books =>
    ((Store.inMemory label users).answer query, books.tally label query.kind)
  | down label note, books =>
    ((Store.failing label note).answer query, books.tally label query.kind)
  | counting label inner, books => inner.ask query (books.tally label query.kind)

lemma ask_eq (backing : Backing) (query : Query) (books : Books) :
    backing.ask query books =
      ((backing.store.ask query).answer, books.after (backing.store.ask query).trace) := by
  induction backing generalizing books with
  | memory label users => rw [ask, ← books.after_query label query]; rfl
  | down label note => rw [ask, ← books.after_query label query]; rfl
  | counting label inner ih =>
    rw [ask, ih, ← books.after_query label query (inner.store.answer query), ← Books.after_append]
    rfl

end Backing

namespace Part

/-- The gate in the logic of traces. -/
def asGate (part : Part Backing) : Gate := (part.map Backing.store).gate

/-- What the gate decides. -/
def check (attempt : Attempt) : Part Backing → Books → Except Failure Decision × Books
  | userExists backing, books =>
    let (reply, books) := backing.ask (.userExists attempt.identity) books
    (Decision.ofReply .unknownUser reply, books)
  | passwordMatch backing, books =>
    let (reply, books) := backing.ask (.verifyPassword attempt.identity attempt.secret) books
    (Decision.ofReply .badPassword reply, books)
  | roleRoute router, books => (.ok (.terminate (router.routeFor attempt.identity)), books)
  | rule _ _ _ decide, books => (.ok (decide attempt), books)

lemma check_eq (part : Part Backing) (attempt : Attempt) (books : Books) :
    part.check attempt books =
      ((part.asGate.check attempt).answer, books.after (part.asGate.check attempt).trace) := by
  cases part with
  | userExists backing => rw [check, backing.ask_eq]; rfl
  | passwordMatch backing => rw [check, backing.ask_eq]; rfl
  | roleRoute router => exact congrArg _ books.after_nil.symm
  | rule name requires terminates decide => exact congrArg _ books.after_nil.symm

lemma measurements_check (part : Part Backing) (attempt : Attempt) :
    Trace.measurements (part.asGate.check attempt).trace = [] := by
  cases part <;> simp [asGate, map, gate, Store.ask, Gate.ofRule, Traced.plain, Trace.measurements]

/-- Asks the gates in order until one settles the attempt or fails. -/
def evaluateFrom (attempt : Attempt) :
    (position : Nat) → List (Part Backing) → Books → Except Failure Evaluation × Books
  | position, [], books => (.ok ⟨.proceed, none, position⟩, books)
  | position, part :: parts, books =>
    match part.check attempt books with
    | (.error failure, books) => (.error failure, books)
    | (.ok decision, books) =>
      if decision.isFinal then (.ok ⟨decision, some part.asGate.name, position + 1⟩, books)
      else evaluateFrom attempt (position + 1) parts books

lemma evaluateFrom_eq (spans : List Log.Span) (attempt : Attempt) (n : Nat)
    (parts : List (Part Backing)) (books : Books) :
    evaluateFrom attempt n parts books =
      ((Pipeline.runFrom spans attempt n (parts.map asGate)).answer,
        books.after (Pipeline.runFrom spans attempt n (parts.map asGate)).trace) := by
  -- For all numbers to start from: the later gates meet what the earlier ones have added.
  induction parts generalizing n books with
  | nil => rw [evaluateFrom, List.map_nil, Pipeline.runFrom, Traced.plain, books.after_nil]
  | cons part parts ih =>
    rw [evaluateFrom, check_eq, List.map_cons, Pipeline.runFrom]
    cases ha : (part.asGate.check attempt).answer with
    | error failure => simp [Traced.bind, Traced.preceded, ha, Books.after_append]
    | ok decision =>
      cases hf : decision.isFinal <;>
        simp [Traced.bind, Traced.preceded, ha, hf, Books.after_append, ih]

end Part

/-- A service of known gates. -/
structure Desk where
  parts : List (Part Backing)
  defaultRoute : Route

lemma Service.effects_eq (spans : List Log.Span) (names : List String) (e : Evaluation)
    (outcome : Outcome) (took : Duration) :
    effects spans names e outcome took =
      (gateMeasurements names e ++
        [Measurement.login outcome.label (outcome.reason?.map Reason.code) took]).map .measure ++
      [.log ⟨spans, .loginEvaluated outcome e.decidedBy e.gatesRun⟩] := by
  simp [effects]

namespace Desk
variable (desk : Desk)

def service : Service := ⟨⟨desk.parts.map Part.asGate⟩, desk.defaultRoute⟩

/-- Decides about an attempt. A failure is passed on, anything else is measured. -/
def login (took : Duration) (attempt : Attempt) (books : Books) :
    Except Failure Outcome × Books :=
  match Part.evaluateFrom attempt 0 desk.parts books with
  | (.error failure, books) => (.error failure, books)
  | (.ok e, books) =>
    let outcome := Outcome.ofDecision desk.defaultRoute e.decision
    (.ok outcome, books.record (Service.gateMeasurements (desk.parts.map (·.asGate.name)) e ++
      [.login outcome.label (outcome.reason?.map Reason.code) took]))

lemma login_eq (took : Duration) (attempt : Attempt) (books : Books) :
    desk.login took attempt books =
      ((desk.service.login took attempt).answer,
        books.after (desk.service.login took attempt).trace) := by
  have hn : desk.service.pipeline.names = desk.parts.map (·.asGate.name) := by
    simp [service, Pipeline.names, Function.comp_def]
  have he : Part.evaluateFrom attempt 0 desk.parts books =
      ((desk.service.evaluation attempt).answer,
        books.after (desk.service.evaluation attempt).trace) :=
    Part.evaluateFrom_eq (desk.service.gateSpans attempt) attempt 0 desk.parts books
  rw [login, he, Service.answer_login, Service.trace_login, Books.after_append, Service.closing]
  cases (desk.service.evaluation attempt).answer with
  | error failure => simp [Except.map]
  | ok e =>
    simp only [Service.effects_eq, Books.after_append, Books.after_measurements,
      Books.after_log_cons, Books.after_nil, hn]
    rfl

end Desk

/-- A service is asked about an attempt. -/
structure Request where
  desk : Desk
  attempt : Attempt

namespace Request
variable (request : Request)

/-- The login in the logic of traces, if it takes this time. -/
def login (took : Duration) : Login := ⟨request.desk.service, request.attempt, took⟩

/-- What comes of it. -/
def result : Except Failure Outcome := (request.login ⟨0, 0⟩).run.answer

/-- Carries out logins one after another. Each of them takes its time. -/
def serve : List (Request × Duration) → Books → List (Except Failure Outcome) × Books
  | [], books => ([], books)
  | (request, took) :: visits, books =>
    let (result, books) := request.desk.login took request.attempt books
    let (results, books) := serve visits books
    (result :: results, books)

lemma answer_run_login (took : Duration) : (request.login took).run.answer = request.result := by
  rw [result, Login.run, Login.run, Service.answer_login, Service.answer_login]
  rfl

/-- The numbers come out as the traces tell, and the results are those of the single logins. -/
lemma serve_eq (visits : List (Request × Duration)) (books : Books) :
    serve visits books =
      (visits.map fun visit => visit.1.result,
        books.after (visits.flatMap fun visit => (visit.1.login visit.2).run.trace)) := by
  induction visits generalizing books with
  | nil => exact congrArg _ books.after_nil.symm
  | cons visit visits ih =>
    obtain ⟨request,took⟩ := visit
    have hr : (request.desk.service.login took request.attempt).answer = request.result :=
      request.answer_run_login took
    simp only [serve, Desk.login_eq, ih, hr, List.map_cons, List.flatMap_cons, Books.after_append]
    rfl

lemma own_login (took : Duration) : (request.login took).own = [] := by
  have hn (gate : Gate) (hg : gate ∈ (request.login took).asked) :
      Trace.measurements (gate.check request.attempt).trace = [] := by
    have hm := (Pipeline.askedFrom_prefix request.attempt _).subset hg
    obtain ⟨part,-,rfl⟩ := List.mem_map.mp hm
    exact part.measurements_check request.attempt
  rw [Login.own, Login.doings, Pipeline.doings, Trace.measurements, List.filterMap_flatMap]
  exact List.flatMap_eq_nil_iff.mpr hn

/-- The questions that its gates put to a store. -/
def queries (label : Nat) : List Query :=
  Trace.queries label (request.desk.service.evaluation request.attempt).trace

/-- The decisions of its gates that are counted: all of them, unless it fails. -/
def counted : List (String × String) :=
  match request.result with
  | .error _ => []
  | .ok _ => (request.login ⟨0, 0⟩).returned

section Numbers
variable (visits : List (Request × Duration)) (books : Books)

lemma queries_run (visit : Request × Duration) (label : Nat) :
    Trace.queries label (visit.1.login visit.2).run.trace = visit.1.queries label := by
  rw [Login.run, Service.trace_login, Trace.queries_append]
  exact (congrArg _ (Service.queries_closing _ _ _ label)).trans (List.append_nil _)

/-- What is added to the numbers is made by the requests alone. -/
lemma calls_serve (label : Nat) (kind : QueryKind) :
    (serve visits books).2.calls label kind =
      books.calls label kind +
        ((visits.map Prod.fst).flatMap (·.queries label)).countP (·.kind = kind) := by
  have hq : Trace.queries label (visits.flatMap fun visit => (visit.1.login visit.2).run.trace) =
      (visits.map Prod.fst).flatMap (·.queries label) := by
    induction visits with
    | nil => rfl
    | cons visit visits ih =>
      rw [List.flatMap_cons, Trace.queries_append, ih, queries_run, List.map_cons,
        List.flatMap_cons]
  rw [serve_eq, ← hq]
  rfl

lemma recorder_serve :
    (serve visits books).2.recorder =
      books.recorder.after (visits.map fun visit => visit.1.login visit.2) := by
  rw [serve_eq]
  induction visits generalizing books with
  | nil => rw [List.flatMap_nil, Books.after_nil]; rfl
  | cons visit visits ih =>
    rw [List.flatMap_cons, Books.after_append, ih]
    rfl

lemma flatMap_own : (visits.map fun visit => visit.1.login visit.2).flatMap Login.own = [] := by
  simp [List.flatMap_map, own_login]

lemma logins_serve (outcome reason : String) :
    (serve visits books).2.recorder.logins outcome reason =
      books.recorder.logins outcome reason +
        (visits.map Prod.fst).countP fun request =>
          request.result.toOption.any (·.labels = (outcome, reason)) := by
  -- What a login took stays in the recorder, but no counter looks at it.
  rw [recorder_serve, Recorder.logins_after, flatMap_own, Recorder.record_nil]
  simp [List.countP_map, Function.comp_def, Login.outcome?, answer_run_login]

lemma gateDecisions_serve (gate decision : String) :
    (serve visits books).2.recorder.gateDecisions gate decision =
      books.recorder.gateDecisions gate decision +
        ((visits.map Prod.fst).flatMap counted).count (gate, decision) := by
  have hc : (Login.completed (visits.map fun visit => visit.1.login visit.2)).flatMap
      Login.returned = (visits.map Prod.fst).flatMap counted := by
    induction visits with
    | nil => rfl
    | cons visit visits ih =>
      have ho : (visit.1.login visit.2).outcome? = visit.1.result.toOption := by
        rw [Login.outcome?, answer_run_login]
      rw [List.map_cons, List.map_cons, List.flatMap_cons, ← ih, counted, Login.completed,
        List.filter_cons, ho]
      cases visit.1.result with
      | error failure => rfl
      | ok outcome => rfl
  rw [recorder_serve, Recorder.gateDecisions_after, flatMap_own, Recorder.record_nil, hc]

end Numbers

/-- Logins at services that share gates, stores and a recorder, one after another, and the same logins in
another order. What is counted in place is what the traces of the logins tell. Every login comes to the
same in both orders, whatever the numbers were before: to what it comes to alone. So does a login that is
repeated. In the end all numbers are the same in both orders. The logins need not take the same time. -/
theorem serve_perm {visits others : List (Request × Duration)}
    (h : (visits.map Prod.fst).Perm (others.map Prod.fst)) (books : Books) :
    let traces := visits.flatMap fun visit => (visit.1.login visit.2).run.trace
    let after := (serve visits books).2
    let otherwise := (serve others books).2
    after = books.after traces ∧
    (∀ before, (serve visits before).1 = visits.map fun visit => visit.1.result) ∧
    (∀ request took, (login request took).run.answer = request.result) ∧
    (∀ before between,
      ((visits.map Prod.fst).zip (serve visits before).1).Perm
        ((others.map Prod.fst).zip (serve others between).1)) ∧
    (∀ request took times before,
      (serve (List.replicate times (request, took)) before).1 =
        List.replicate times request.result) ∧
    (∀ label kind, after.calls label kind = otherwise.calls label kind) ∧
    (∀ outcome reason,
      after.recorder.logins outcome reason = otherwise.recorder.logins outcome reason) ∧
    ∀ gate decision,
      after.recorder.gateDecisions gate decision =
        otherwise.recorder.gateDecisions gate decision := by
  intro traces after otherwise
  have hr (some : List (Request × Duration)) (before : Books) :
      (serve some before).1 = (some.map Prod.fst).map result := by
    rw [serve_eq, List.map_map]
    rfl
  refine ⟨?_,?_,answer_run_login,?_,?_,?_,?_,?_⟩
  · exact congrArg (·.2) (serve_eq visits books)
  · intro before
    rw [serve_eq]
  · intro before between
    rw [hr, hr, ← List.map_prod_left_eq_zip, ← List.map_prod_left_eq_zip]
    exact h.map _
  · intro request took times before
    rw [serve_eq, List.map_replicate]
  · intro label kind
    rw [calls_serve, calls_serve, (h.flatMap_right _).countP_eq]
  · intro outcome reason
    rw [logins_serve, logins_serve, h.countP_eq]
  · intro gate decision
    rw [gateDecisions_serve, gateDecisions_serve, (h.flatMap_right _).count_eq]

/-- Two services share a counting store of users. One of them has secrets verified by a store that is down,
inside two counting stores. Its login fails, and comes first or last. -/
theorem serve_perm_failing_first :
    let users : Backing := .counting 1 (.memory 2 (.ofList [("ada", "x")]))
    let offline : Backing := .counting 3 (.counting 4 (.down 5 Store.offlineNote))
    let desk (verifier : Backing) : Desk :=
      ⟨[.userExists users, .passwordMatch verifier, .roleRoute ⟨["ada"]⟩], .standard⟩
    let known : Request := ⟨desk users, ⟨"ada", "x"⟩⟩
    let broken : Request := ⟨desk offline, ⟨"ada", "x"⟩⟩
    let visits : List (Request × Duration) := [(broken, ⟨1, 0⟩), (known, ⟨2, 0⟩), (known, ⟨3, 0⟩)]
    let others : List (Request × Duration) := [(known, ⟨4, 0⟩), (known, ⟨4, 0⟩), (broken, ⟨9, 0⟩)]
    let books : Books := ⟨fun _ _ => 5, ⟨"turnstile", [], []⟩⟩
    (visits.map Prod.fst).Perm (others.map Prod.fst) ∧
      (serve visits books).1 =
        [.error (.store (.unavailable Store.offlineNote)), .ok (.granted .admin),
          .ok (.granted .admin)] ∧
      (serve visits books).2.calls 1 .userExists = 8 ∧
      (serve visits books).2.calls 1 .verifyPassword = 7 ∧
      (serve visits books).2.calls 3 .verifyPassword = 6 ∧
      (serve visits books).2.calls 4 .verifyPassword = 6 ∧
      (serve visits books).2.recorder.logins "granted" noReason = 2 ∧
      (serve visits books).2.recorder.gateDecisions "user_exists" "continue" = 2 := by
  intro users offline desk known broken visits others books
  have h : (visits.map Prod.fst).Perm (others.map Prod.fst) :=
    (List.Perm.swap known broken [known]).trans ((List.Perm.swap known broken []).cons known)
  obtain ⟨-,hr,-,-,-,hc,hl,hd⟩ := serve_perm h books
  exact ⟨h,hr books,hc 1 .userExists,hc 1 .verifyPassword,hc 3 .verifyPassword,
    hc 4 .verifyPassword,hl "granted" noReason,hd "user_exists" "continue"⟩

end Request

end Turnstile
