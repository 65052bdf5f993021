import VulnScan.Proofs.Json.Records
import VulnScan.Proofs.LanguageServer.HealthGate
import VulnScan.Proofs.LanguageServer.Inbound

/-! # Replies in chunks

The network decides into which chunks it cuts the body of a reply, and a client looks at its limit
at two places: at the length that is declared, and before every chunk that it takes. Of a whole
success both come to the same (`Client.call_joins_chunks`): the call fails for the length of the
body exactly if the body is longer than the limit, and else its result is what the octets say when
they are joined, however they were cut and whether or not their number was declared.
-/

set_option autoImplicit false

namespace VulnScan.LanguageServer

open Execution (Activity Moment Signals)
open Json (Codec)

variable {σ α : Type}

namespace Reply

variable {limit : Nat} {r : Reply}

/-- The octets of the body. -/
def content (r : Reply) : List UInt8 := r.chunks.flatten

/-- The body came to its end, and if its length was declared, then truthfully. -/
structure IsWhole (r : Reply) : Prop where
  complete : r.ending = .complete
  truthful : ∀ length, r.declared = some length → length = r.content.length

/-! ## The two looks at the limit -/

/-- Chunks that fit together are all taken. -/
theorem gather_of_le {kept : List UInt8} {chunks : List (List UInt8)}
    (h : kept.length + chunks.flatten.length ≤ limit) :
    gather limit kept chunks = .ok (kept ++ chunks.flatten) := by
  induction chunks generalizing kept with
  | nil => simp [gather]
  | cons c cs ih =>
      rw [List.flatten_cons, List.length_append] at h
      have hfits : ¬ limit < kept.length + c.length := by omega
      have hrest : (kept ++ c).length + cs.flatten.length ≤ limit := by
        rw [List.length_append]
        omega
      rw [gather, if_neg hfits, ih hrest, List.flatten_cons, List.append_assoc]

/-- Of chunks that do not fit together one is the first that exceeds the limit. The limit has not
been exceeded so far, so an empty chunk is never that one. -/
theorem gather_of_lt {kept : List UInt8} {chunks : List (List UInt8)} (within : kept.length ≤ limit)
    (h : limit < kept.length + chunks.flatten.length) :
    ∃ size, gather limit kept chunks = .error size ∧ limit < size ∧
      size ≤ kept.length + chunks.flatten.length := by
  induction chunks generalizing kept with
  | nil =>
      rw [List.flatten_nil, List.length_nil] at h
      omega
  | cons c cs ih =>
      rw [List.flatten_cons, List.length_append] at h
      by_cases hc : limit < kept.length + c.length
      · refine ⟨kept.length + c.length, ?_, hc, ?_⟩
        · rw [gather, if_pos hc]
        · rw [List.flatten_cons, List.length_append]
          omega
      · have hlength : (kept ++ c).length = kept.length + c.length := List.length_append
        obtain ⟨size, hsize, hlt, hle⟩ := @ih (kept ++ c) (by omega) (by omega)
        refine ⟨size, ?_, hlt, ?_⟩
        · rw [gather, if_neg hc, hsize]
        · rw [List.flatten_cons, List.length_append]
          omega

/-- A truthful length does not exceed the limit if the body does not. -/
theorem IsWhole.fits (whole : r.IsWhole) (h : r.content.length ≤ limit) : r.Fits limit := by
  unfold Fits
  cases hdeclared : r.declared with
  | none => rfl
  | some length =>
      have htruthful : length = r.content.length := whole.truthful length hdeclared
      simp only [Option.filter_some, decide_eq_true_eq]
      rw [if_neg (by omega)]

/-- A body within the limit is taken as it is. -/
theorem IsWhole.body_of_le (whole : r.IsWhole) (deadline : Time.Span)
    (h : r.content.length ≤ limit) : r.body limit deadline = .ok r.content := by
  have hfits : r.declared.filter (limit < ·) = none := whole.fits h
  have hgather : gather limit [] r.chunks = .ok r.content :=
    gather_of_le (by simpa [content] using h)
  simp only [body, hfits, hgather, whole.complete]

/-- A body beyond the limit is refused, by its declared length or by its chunks. -/
theorem IsWhole.body_of_lt (whole : r.IsWhole) (deadline : Time.Span)
    (h : limit < r.content.length) :
    ∃ size, r.body limit deadline = .error (.tooLarge size limit) ∧ limit < size ∧
      size ≤ r.content.length := by
  cases hdeclared : r.declared with
  | none =>
      have htotal : ([] : List UInt8).length + r.chunks.flatten.length = r.content.length :=
        Nat.zero_add _
      obtain ⟨size, hgather, hlt, hle⟩ :=
        @gather_of_lt limit [] r.chunks (Nat.zero_le limit) (by omega)
      refine ⟨size, ?_, hlt, by omega⟩
      simp only [body, hdeclared, Option.filter_none, hgather]
  | some length =>
      have htruthful : length = r.content.length := whole.truthful length hdeclared
      refine ⟨length, ?_, by omega, by omega⟩
      have hexceeds : (some length).filter (limit < ·) = some length := by
        rw [Option.filter_some, if_pos (by simpa [htruthful] using h)]
      simp only [body, hdeclared, hexceeds]

variable (answer : Codec α) (deadline : Time.Span)

/-- Within the limit the octets are read as a message. -/
theorem IsWhole.read_of_le (success : r.isSuccess = true) (whole : r.IsWhole)
    (h : r.content.length ≤ limit) :
    (Delivery.reply r).read answer limit deadline = readMessage answer r.content := by
  rw [Delivery.read, if_pos success, whole.body_of_le deadline h]
  rfl

/-- Beyond the limit the length of the body is the fault. -/
theorem IsWhole.read_of_lt (success : r.isSuccess = true) (whole : r.IsWhole)
    (h : limit < r.content.length) :
    ∃ size, (Delivery.reply r).read answer limit deadline = .error (.tooLarge size limit) ∧
      limit < size ∧ size ≤ r.content.length := by
  obtain ⟨size, hbody, hsize⟩ := whole.body_of_lt deadline h
  refine ⟨size, ?_, hsize⟩
  rw [Delivery.read, if_pos success, hbody]
  rfl

end Reply

/-! ## Calls -/

/-- A text is a message or has a fault of its own. -/
theorem readMessage_cases (answer : Codec α) (octets : List UInt8) :
    (∃ a, readMessage answer octets = .ok a) ∨
      ∃ fault, readMessage answer octets = .error (.json fault) := by
  unfold readMessage
  cases answer.readOctets octets with
  | ok a => exact .inl ⟨a, rfl⟩
  | error fault => exact .inr ⟨fault, rfl⟩

/-- The call failed because the body was too long for the limit. -/
def IsTooLarge (limit : Nat) (result : Except CallError α) : Prop :=
  ∃ size, result = .error (.tooLarge size limit)

/-- A whole success is too large exactly if its body is longer than the limit. -/
theorem Reply.IsWhole.isTooLarge_iff {r : Reply} (success : r.isSuccess = true) (whole : r.IsWhole)
    (limit : Nat) (answer : Codec α) (deadline : Time.Span) :
    IsTooLarge limit ((Delivery.reply r).read answer limit deadline) ↔
      limit < r.content.length := by
  constructor
  · rintro ⟨size, hsize⟩
    by_contra hle
    rw [whole.read_of_le answer deadline success (by omega)] at hsize
    -- neither a message nor a fault of a text is a matter of length
    rcases readMessage_cases answer r.content with ⟨a, ha⟩ | ⟨fault, hfault⟩
    · rw [ha] at hsize
      cases hsize
    · rw [hfault] at hsize
      cases hsize
  · intro hlt
    obtain ⟨size, hread, -⟩ := whole.read_of_lt answer deadline success hlt
    exact ⟨size, hread⟩

namespace Client

variable {c : Client σ} {answer : Codec α} {request : Request} {deadline : Time.Span}
  {signals : Signals} {m m' : Moment σ}

/-- What was delivered is read at once. -/
theorem call_of_delivered {d : Delivery}
    (h : (c.send (c.post request) deadline).alone signals m = .reached (some (.value d)) m') :
    (c.call answer request deadline).alone signals m
      = .reached (some (.value (d.read answer c.inboundLimit deadline))) m' := by
  have hcall : c.call answer request deadline = (c.send (c.post request) deadline).andThen
      fun d => .value (d.read answer c.inboundLimit deadline) := rfl
  rw [hcall, Activity.alone_andThen h]
  rfl

/-- **Reading does not depend on the chunks.** A call that is answered with a success, in any
chunks and with no length or a truthful one, ends as soon as it is delivered. It fails for the
length exactly if the body is longer than the limit of the client, and then cites a length beyond
the limit. Else its result, a message or the fault of its text, is what the joined chunks say; so
another success with the same octets has the same result, and is too large if this one is. -/
theorem call_joins_chunks (answer : Codec α) {r : Reply} (success : r.isSuccess = true)
    (whole : r.IsWhole)
    (delivered : (c.send (c.post request) deadline).alone signals m
      = .reached (some (.value (.reply r))) m') :
    ∃ result : Except CallError α,
      (c.call answer request deadline).alone signals m = .reached (some (.value result)) m' ∧
      (IsTooLarge c.inboundLimit result ↔ c.inboundLimit < r.content.length) ∧
      (∀ size, result = .error (.tooLarge size c.inboundLimit) →
        c.inboundLimit < size ∧ size ≤ r.content.length) ∧
      (r.content.length ≤ c.inboundLimit →
        result = readMessage answer r.content ∧
          ((∃ message, result = .ok message) ∨ ∃ fault, result = .error (.json fault))) ∧
      ∀ r' : Reply, r'.isSuccess = true → r'.IsWhole → r'.content = r.content →
        (IsTooLarge c.inboundLimit ((Delivery.reply r').read answer c.inboundLimit deadline) ↔
          IsTooLarge c.inboundLimit result) ∧
        (¬ IsTooLarge c.inboundLimit result →
          (Delivery.reply r').read answer c.inboundLimit deadline = result) := by
  have hlarge := Reply.IsWhole.isTooLarge_iff success whole c.inboundLimit answer deadline
  refine ⟨_, call_of_delivered delivered, hlarge, fun size hsize => ?_, fun hle => ?_,
    fun r' success' whole' same => ⟨?_, fun hnot => ?_⟩⟩
  · obtain ⟨size', hread, hbounds⟩ :=
      whole.read_of_lt answer deadline success (hlarge.1 ⟨size, hsize⟩)
    rw [hread] at hsize
    cases hsize
    exact hbounds
  · rw [whole.read_of_le answer deadline success hle]
    exact ⟨rfl, readMessage_cases answer r.content⟩
  · rw [Reply.IsWhole.isTooLarge_iff success' whole', hlarge, same]
  · have hle : r.content.length ≤ c.inboundLimit := Nat.le_of_not_lt fun hlt => hnot (hlarge.2 hlt)
    have hle' : r'.content.length ≤ c.inboundLimit := by rwa [same]
    rw [whole.read_of_le answer deadline success hle,
      whole'.read_of_le answer deadline success' hle', same]

/-- What a server says about its health is read as that. -/
theorem healthResponse_returns (health : Health) : Wire.healthResponse.Returns health health :=
  have hname : Wire.health.Faithful :=
    Codec.choice_faithful (by intro h; cases h <;> decide) (by decide)
  Codec.recordOf_returns (by decide)
    ⟨Json.Field.keeps_required (hname.returns health), trivial⟩ rfl

/-- Twenty octets that say that the server is serving, cut within the words. One chunk is empty, and
no length is declared. -/
def scattered : Reply :=
  { status := 200, declared := none
    chunks := [[123, 34, 115, 116, 97], [], [116, 117, 115, 34, 58, 34, 83, 69, 82, 86],
      [73, 78, 71, 34, 125]] }

/-- A client that takes no more than these octets. -/
def exacting : Client Unit where
  baseUrl := "http://HOST"
  inboundLimit := 20
  send _ _ := .value (.reply scattered)

/-- The octets are just within the limit, and the client reads what they say together. -/
theorem exacting_call :
    scattered.isSuccess = true ∧ scattered.IsWhole ∧
    (exacting.send (exacting.post .health) (.ofSeconds 10)).alone {} ⟨0, (), false⟩
      = .reached (some (.value (.reply scattered))) ⟨0, (), false⟩ ∧
    scattered.content.length = exacting.inboundLimit ∧
    (exacting.call Wire.healthResponse .health (.ofSeconds 10)).alone {} ⟨0, (), false⟩
      = .reached (some (.value (.ok .serving))) ⟨0, (), false⟩ := by
  have whole : scattered.IsWhole := ⟨rfl, nofun⟩
  have hlength : scattered.content.length = exacting.inboundLimit := rfl
  have htext : Json.seenOctets scattered.content
      = Json.seenText (Wire.healthResponse.compact .serving) := by
    decide +kernel
  have hread : readMessage Wire.healthResponse scattered.content = .ok .serving := by
    rw [readMessage, Codec.readOctets, htext, ← Codec.read,
      (healthResponse_returns .serving).read_compact]
  have delivered : (exacting.send (exacting.post .health) (.ofSeconds 10)).alone {} ⟨0, (), false⟩
      = .reached (some (.value (.reply scattered))) ⟨0, (), false⟩ := rfl
  obtain ⟨result, hcall, -, -, hfits, -⟩ :=
    call_joins_chunks Wire.healthResponse rfl whole delivered
  rw [(hfits (Nat.le_of_eq hlength)).1, hread] at hcall
  exact ⟨rfl, whole, delivered, hlength, hcall⟩

end Client

end VulnScan.LanguageServer
