import VulnScan.CommandLine.Job

/-! # The world of a live scan

A live scan asks a network that is outside of this world. What the network has answered so far is
part of the world, and an activity that asks something new waits for ever. So a scan is run with
what is known, the questions that are left open are put to the network, and the scan is run again
from the start with the answers, until no question is left open. Every run finds the answers to
the questions of the run before in the same order, so it gets at least as far.

An answer also tells how long it took, and an activity waits that long for it. So deadlines hold
for a live scan as for any other.
-/

set_option autoImplicit false

namespace VulnScan.Live

open Execution (Activity Course)

/-- A question to the network. -/
inductive Question where
  | lookup (name : String)
  | accepting (a : Net.Address) (p : Scan.Probe)
  | send (p : LanguageServer.Post) (deadline : Time.Span)
deriving DecidableEq

/-- What the network answers. -/
inductive Answer where
  | addresses (found : Except String (List Net.Address))
  | ports (ps : List Net.Port)
  | delivery (d : LanguageServer.Delivery)

/-- A question that was answered, and the ticks that the answer took. -/
structure Known where
  question : Question
  answer : Answer
  ticks : Nat

/-- What a live scan knows, and what it has asked so far with the time of asking, the latest
first. -/
structure World where
  start : Time.Timestamp
  known : List Known := []
  asked : List (Nat × Question) := []
  /-- The ticks since the start. -/
  elapsed : Nat := 0

namespace World

/-- The date. -/
def clock (w : World) : Time.Timestamp :=
  (w.start.advance? (Time.Span.ofTicks w.elapsed)).getD w.start

/-- The runtime of a live scan. It gives no numbers to what it runs. -/
def runtime : Scan.Runtime World where
  clock := clock
  crash _ message := "task panicked with message " ++ Text.quoted message

/-- The answer to a question that is asked now. Of the answers to questions that were asked
several times, each is given once. -/
def answer? (w : World) (q : Question) : Option Known :=
  let isSame (k : Known) : Bool := k.question == q
  (w.known.filter isSame)[w.asked.countP fun a => a.2 == q]?

/-- Of questions, in the order in which they were asked, those without an answer. -/
def unanswered : List (Nat × Question) → List Known → List (Nat × Question)
  | [], _ => []
  | a :: as, ks =>
    let isSame (k : Known) : Bool := k.question == a.2
    if ks.any isSame then unanswered as (ks.eraseP isSame) else a :: unanswered as ks

/-- The questions that are left open. -/
def pending (w : World) : List (Nat × Question) := unanswered w.asked.reverse w.known

/-- The world before the next run, with more that is known. -/
def learn (w : World) (ks : List Known) : World := { start := w.start, known := w.known ++ ks }

end World

/-- Notes the time. -/
def tick : Activity World Unit := .change fun now w => { w with elapsed := now }

/-- Asks the network. -/
def ask (q : Question) : Activity World Answer :=
  .touch (fun now w => { w with asked := (now, q) :: w.asked, elapsed := now }) fun _ w =>
    match w.answer? q with
    | some k => .wait k.ticks (tick.andThen fun _ => .value k.answer)
    | none => .forever

/-- The network of a live scan. -/
def network : Scan.Network World where
  lookup name := do
    match ← ask (.lookup name) with
    | .addresses found => return found
    | _ => return .error Scan.Network.unknownName
  accepting a p := do
    match ← ask (.accepting a p) with
    | .ports ps => return ps
    | _ => return []
  send p deadline := do
    match ← ask (.send p deadline) with
    | .delivery d => return d
    | _ => return .unreachable ""

/-- What a run with what is known has come to: it leaves questions open, or it is at its end. -/
inductive Attempt where
  | waiting (w : World) (questions : List (Nat × Question))
  | done (c : CommandLine.Conclusion)
  /-- It broke off with a message. -/
  | collapsed (message : String)

/-- Runs a job with what is known. -/
def attempt (job : CommandLine.Job World) (w : World) : Attempt :=
  let stillOpen (w : World) (otherwise : Attempt) : Attempt :=
    match w.pending with
    | [] => otherwise
    | questions => .waiting w questions
  match job.run {} ⟨0, w, false⟩ with
  | .reached c m => stillOpen m.world (.done c)
  | .collapsed message m => stillOpen m.world (.collapsed message)
  | .abandoned m | .stuck m => stillOpen m.world (.collapsed "the scan came to a standstill")

end VulnScan.Live
