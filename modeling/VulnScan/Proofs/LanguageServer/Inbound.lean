import VulnScan.LanguageServer.Http
import VulnScan.Proofs.Execution.Parts

/-! # What is kept of a reply

While a client reads the body of a reply it keeps the octets that came so far (`Reply.Keeps`). Those
of a success are what it has gathered (`Reply.gather_append`), and as it looks at the limit before
it takes a chunk, they are never more than the limit. The body of any other reply is taken to its
end, whatever the limit is, and becomes the text of the error (`Client.call_keeps`).
-/

set_option autoImplicit false

namespace VulnScan.LanguageServer

open Execution (Activity Outcome)
open Json (Codec)

variable {σ α : Type}

/-! ## Chunks under a limit -/

namespace Reply

variable {limit : Nat} {r : Reply} {kept body : List UInt8} {rest : List (List UInt8)}

/-- To gather chunks is to gather the first of them, and then to go on from what was received. -/
theorem gather_append (limit : Nat) (received : List UInt8) (cs ds : List (List UInt8)) :
    gather limit received (cs ++ ds)
      = gather limit received cs >>= fun kept => gather limit kept ds := by
  induction cs generalizing received with
  | nil => rfl
  | cons c cs ih =>
      rw [List.cons_append, gather, gather]
      split
      · rfl
      · exact ih (received ++ c)

/-- What is gathered are the octets of all chunks, and not more than the limit. -/
theorem gather_eq_ok {received : List UInt8} {cs : List (List UInt8)}
    (h : gather limit received cs = .ok kept) (within : received.length ≤ limit) :
    kept = received ++ cs.flatten ∧ kept.length ≤ limit := by
  induction cs generalizing received with
  | nil =>
      cases h
      exact ⟨(List.append_nil kept).symm, within⟩
  | cons c cs ih =>
      rw [gather] at h
      split at h
      · cases h
      · next hc =>
          have hlength : (received ++ c).length = received.length + c.length := List.length_append
          rw [List.flatten_cons, ← List.append_assoc]
          exact ih h (by omega)

/-- The declared length of the body does not exceed the limit. -/
def Fits (limit : Nat) (r : Reply) : Prop := r.declared.filter (limit < ·) = none

/-- `r.Keeps limit kept rest`: at some moment the octets `kept` of the body have been taken, and
the chunks `rest` are still to come. Of a success whose declared length was accepted they are what
was gathered from the chunks before, and of a reply that is no success they are all of these. -/
inductive Keeps (limit : Nat) (r : Reply) : List UInt8 → List (List UInt8) → Prop
  | nothing : Keeps limit r [] r.chunks
  | gathered {taken rest : List (List UInt8)} {kept : List UInt8} (success : r.isSuccess = true)
      (fits : r.Fits limit) (split : r.chunks = taken ++ rest)
      (gathers : gather limit [] taken = .ok kept) : Keeps limit r kept rest
  | read {taken rest : List (List UInt8)} (failure : r.isSuccess = false)
      (split : r.chunks = taken ++ rest) : Keeps limit r taken.flatten rest

/-- What is kept is the start of the body. -/
theorem Keeps.append_flatten (h : r.Keeps limit kept rest) :
    kept ++ rest.flatten = r.chunks.flatten := by
  cases h with
  | nothing => rfl
  | gathered success fits split gathers =>
      obtain ⟨rfl, -⟩ := gather_eq_ok gathers (Nat.zero_le limit)
      rw [split, List.flatten_append, List.nil_append]
  | read failure split => rw [split, List.flatten_append]

/-- Of a success no more than the limit is ever kept. -/
theorem Keeps.length_le (h : r.Keeps limit kept rest) (success : r.isSuccess = true) :
    kept.length ≤ limit := by
  cases h with
  | nothing => exact Nat.zero_le limit
  | gathered success fits split gathers => exact (gather_eq_ok gathers (Nat.zero_le limit)).2
  | read failure split =>
      rw [success] at failure
      cases failure

/-- If the body is not that of a success, all of it is kept in the end. -/
theorem Keeps.to_end (failure : r.isSuccess = false) : r.Keeps limit r.chunks.flatten [] :=
  .read failure (List.append_nil _).symm

/-- More than the limit is kept exactly of long bodies of replies that are no success. -/
theorem exists_keeps_gt_iff :
    (∃ kept rest, r.Keeps limit kept rest ∧ limit < kept.length) ↔
      r.isSuccess = false ∧ limit < r.chunks.flatten.length := by
  constructor
  · rintro ⟨kept, rest, h, hlt⟩
    constructor
    · cases hs : r.isSuccess with
      | false => rfl
      | true =>
          have hle : kept.length ≤ limit := h.length_le hs
          omega
    · rw [← h.append_flatten, List.length_append]
      omega
  · rintro ⟨failure, hlt⟩
    exact ⟨_, _, Keeps.to_end failure, hlt⟩

end Reply

/-! ## Results of calls -/

/-- The result of a call is made from octets of the body of the reply: it is what they say as a
message, or a complaint in their words, or it needs none of them. -/
inductive MadeFrom (answer : Codec α) : List UInt8 → Except CallError α → Prop
  | message (octets : List UInt8) : MadeFrom answer octets (readMessage answer octets)
  | complaint (status : Nat) (octets : List UInt8) :
      MadeFrom answer octets (.error (.api status (Text.Utf8.text octets)))
  | tooLarge (size limit : Nat) : MadeFrom answer [] (.error (.tooLarge size limit))
  | http (detail : String) : MadeFrom answer [] (.error (.http detail))
  | deadline (limit : Time.Span) : MadeFrom answer [] (.error (.deadline limit))

/-- There are not more characters and gaps than octets; one more gap can come from a character
that has begun before them. -/
theorem length_decodeFrom_le (b : Option Text.Utf8.Begun) (octets : List UInt8) :
    (Text.Utf8.decodeFrom b octets).length ≤ octets.length + b.toList.length := by
  induction octets generalizing b with
  | nil => cases b <;> simp [Text.Utf8.decodeFrom]
  | cons o os ih =>
      have hnone : (Text.Utf8.decodeFrom none os).length ≤ os.length := ih none
      have hsome : ∀ b', (Text.Utf8.decodeFrom (some b') os).length ≤ os.length + 1 :=
        fun b' => ih (some b')
      cases b with
      | none =>
          simp only [Text.Utf8.decodeFrom, List.nil_append, List.length_cons, Option.toList_none,
            List.length_nil]
          cases Text.Utf8.start o with
          | whole c => simpa using hnone
          | begun b' => exact hsome b'
          | stray => simpa using hnone
      | some b =>
          simp only [Text.Utf8.decodeFrom, List.length_cons, List.length_nil, Option.toList_some]
          cases b.next o with
          | none =>
              -- the gap is owed by the octet before that began a character
              cases Text.Utf8.start o with
              | whole c => simpa using hnone
              | begun b' => simpa using hsome b'
              | stray => simpa using hnone
          | some step =>
              cases step with
              | whole c => exact Nat.le_succ_of_le (Nat.succ_le_succ hnone)
              | begun b' => exact Nat.le_succ_of_le (hsome b')
              | stray => exact Nat.le_succ_of_le (Nat.succ_le_succ hnone)

/-- A complaint has not more characters than the octets that it is made from. -/
theorem MadeFrom.length_le {answer : Codec α} {octets : List UInt8} {status : Nat}
    {message : String} (h : MadeFrom answer octets (.error (.api status message))) :
    message.length ≤ octets.length := by
  generalize hresult : (Except.error (.api status message) : Except CallError α) = result at h
  cases h with
  | message =>
      -- what is read as a message is no complaint
      unfold readMessage at hresult
      split at hresult <;> cases hresult
  | complaint status' =>
      cases hresult
      have hle := length_decodeFrom_le none octets
      simpa [Text.Utf8.text, Text.Utf8.decode] using hle
  | tooLarge => cases hresult
  | http => cases hresult
  | deadline => cases hresult

/-- The result for a success is made from octets that were kept at some moment. -/
theorem Reply.made_of_isSuccess {r : Reply} (success : r.isSuccess = true) (answer : Codec α)
    (limit : Nat) (deadline : Time.Span) :
    ∃ kept rest, r.Keeps limit kept rest ∧
      MadeFrom answer kept ((Delivery.reply r).read answer limit deadline) := by
  have hread : (Delivery.reply r).read answer limit deadline
      = (r.body limit deadline >>= readMessage answer) := if_pos success
  rw [hread, Reply.body]
  cases hfits : r.declared.filter (limit < ·) with
  | some size => exact ⟨[], r.chunks, .nothing, .tooLarge size limit⟩
  | none =>
      cases hbody : Reply.gather limit [] r.chunks with
      | error size => exact ⟨[], r.chunks, .nothing, .tooLarge size limit⟩
      | ok body =>
          cases hend : r.ending with
          | complete =>
              exact ⟨body, [], .gathered success hfits (List.append_nil _).symm hbody,
                .message body⟩
          | broken detail => exact ⟨[], r.chunks, .nothing, .http detail⟩
          | late => exact ⟨[], r.chunks, .nothing, .deadline deadline⟩

namespace Client

variable {c : Client σ} {answer : Codec α} {request : Request} {deadline : Time.Span}
  {result : Except CallError α}

/-- The result of a call is what is read from a delivery. -/
theorem exists_delivery (h : (c.call answer request deadline).MayEnd (.value result)) :
    ∃ d, (c.send (c.post request) deadline).MayEnd (.value d) ∧
      result = d.read answer c.inboundLimit deadline := by
  obtain ⟨o, hsend, ho⟩ := Execution.Activity.mayEnd_andThen h
  cases o with
  | value d =>
      have hread : Activity.finish (.value result)
          = (.finish (.value (d.read answer c.inboundLimit deadline)) : Activity σ _) :=
        Execution.Activity.part_finish.1 ho
      cases hread
      exact ⟨d, hsend, rfl⟩
  | fault e => cases Execution.Activity.part_finish.1 ho
  | collapse m => cases Execution.Activity.part_finish.1 ho

/-- **What is kept of a reply**: a call that ends with a result either had no reply, or the result
comes from a reply. If that is a success, at no moment more octets of its body were kept than the
limit of the client, and the result is made from octets that were kept at some moment. Otherwise
the whole body was kept in the end, and if it was complete the error is in its words, however long
it is. So more than the limit is kept exactly if the body is longer than it and the reply is no
success. -/
theorem call_keeps (h : (c.call answer request deadline).MayEnd (.value result)) :
    (∃ detail, result = .error (.http detail)) ∨ result = .error (.deadline deadline) ∨
    ∃ r : Reply, (c.send (c.post request) deadline).MayEnd (.value (.reply r)) ∧
      (r.isSuccess = true →
        (∀ kept rest, r.Keeps c.inboundLimit kept rest → kept.length ≤ c.inboundLimit) ∧
        ∃ kept rest, r.Keeps c.inboundLimit kept rest ∧ MadeFrom answer kept result) ∧
      (r.isSuccess = false →
        r.Keeps c.inboundLimit r.chunks.flatten [] ∧
        result = .error (.api r.status
          (if r.ending = .complete then Text.Utf8.text r.chunks.flatten else ""))) ∧
      ((∃ kept rest, r.Keeps c.inboundLimit kept rest ∧ c.inboundLimit < kept.length) ↔
        r.isSuccess = false ∧ c.inboundLimit < r.chunks.flatten.length) := by
  obtain ⟨d, hsend, rfl⟩ := exists_delivery h
  cases d with
  | unreachable detail => exact .inl ⟨detail, rfl⟩
  | late => exact .inr (.inl rfl)
  | reply r =>
      refine .inr (.inr ⟨r, hsend, fun success => ⟨fun kept rest hk => hk.length_le success, ?_⟩,
        fun failure => ⟨.to_end failure, ?_⟩, Reply.exists_keeps_gt_iff⟩)
      · exact Reply.made_of_isSuccess success answer c.inboundLimit deadline
      · simp only [Delivery.read, failure, Bool.false_eq_true, if_false, Reply.complaint]
        cases r.ending <;> rfl

/-- The reply of a server in trouble, in eight octets. -/
def outcry : Reply :=
  { status := 500, declared := some 8, chunks := [[101, 120, 112, 108, 111, 100, 101, 100]] }

/-- A client that takes four octets, of that server. -/
def beset : Client Unit where
  baseUrl := "http://HOST"
  inboundLimit := 4
  send _ _ := .value (.reply outcry)

theorem beset_call : (beset.call Wire.healthResponse .health (.ofSeconds 10)).MayEnd
    (.value (.error (.api 500 "exploded"))) := by
  have hread : beset.call Wire.healthResponse .health (.ofSeconds 10)
      = .finish (.value (.error (.api 500 "exploded"))) := rfl
  rw [hread]
  exact .refl _

/-- The client keeps more than four octets of the reply. -/
theorem beset_keeps :
    (beset.call Wire.healthResponse .health (.ofSeconds 10)).MayEnd
      (.value (.error (.api 500 "exploded"))) ∧
    ∃ kept rest, outcry.Keeps beset.inboundLimit kept rest ∧ beset.inboundLimit < kept.length := by
  refine ⟨beset_call, ?_⟩
  rcases call_keeps beset_call with ⟨detail, h⟩ | h | ⟨r, hsend, -, -, hiff⟩
  · cases h
  · cases h
  · cases Execution.Activity.part_finish.1 hsend
    exact hiff.2 ⟨rfl, by decide⟩

/-- The client takes four octets at most, and ends with an error that is not made from at most
four. -/
theorem beset_exceeds : beset.inboundLimit = 4 ∧
    (beset.call Wire.healthResponse .health (.ofSeconds 10)).MayEnd
      (.value (.error (.api 500 "exploded"))) ∧
    ¬ ∃ octets : List UInt8, octets.length ≤ beset.inboundLimit ∧
      MadeFrom Wire.healthResponse octets (.error (.api 500 "exploded")) := by
  refine ⟨rfl, beset_call, ?_⟩
  rintro ⟨octets, hle, hmade⟩
  have height : 8 ≤ octets.length := hmade.length_le
  have hfour : octets.length ≤ 4 := hle
  omega

end Client

end VulnScan.LanguageServer
