import Mathlib.Data.List.FinRange
import Mathlib.Data.List.Sort
import VulnScan.Net.PortSet
import VulnScan.Proofs.Outcomes
import VulnScan.Proofs.Text.Numerals
import VulnScan.Proofs.Text.Pieces

/-! # What a list of ports denotes

A part of the list names a port or a range of ports (`PortRange.Names`), or it is at fault in one of
four ways (`PortRange.Blames`). The list denotes the union of its parts: how often a port is named,
where, and in which of the parts does not matter, so the ports that are read, written with commas
between them, are read as the same ports (`readPorts_denotes`).
-/

set_option autoImplicit false

namespace VulnScan.Net

/-! ## The parts -/

namespace PortRange

/-- The trimmed part `t` names the range: it is its only port, or it is its first and its last port
around the first hyphen. -/
inductive Names : List Char → PortRange → Prop
  | port {t : List Char} {r : PortRange} : '-' ∉ t → Text.Writes t r.first → r.last = r.first →
      Names t r
  | span {a b : List Char} {r : PortRange} : '-' ∉ a → Text.Writes (Text.trim a) r.first →
      Text.Writes (Text.trim b) r.last → Names (a ++ '-' :: b) r

/-- The text writes no port. -/
def NoPort (s : List Char) : Prop := ∀ p : Port, ¬ Text.Writes s p

/-- What is at fault in the trimmed part `t`: what stands for a port is none, which the fault cites
as it was typed, or the last port is before the first. The first port is looked at before the last,
and both of them before their order. -/
inductive Blames : List Char → PortFault → Prop
  | port {t : List Char} : '-' ∉ t → NoPort t → Blames t (.port (String.ofList t))
  | first {a b : List Char} : '-' ∉ a → NoPort (Text.trim a) →
      Blames (a ++ '-' :: b) (.port (String.ofList a))
  | last {a b : List Char} {p : Port} : '-' ∉ a → Text.Writes (Text.trim a) p →
      NoPort (Text.trim b) → Blames (a ++ '-' :: b) (.port (String.ofList b))
  | order {a b : List Char} {p q : Port} : '-' ∉ a → Text.Writes (Text.trim a) p →
      Text.Writes (Text.trim b) q → q < p → Blames (a ++ '-' :: b) (.range p q)

theorem readPort_eq_ok {shown s : List Char} {p : Port} (h : Text.Writes s p) :
    readPort shown s = .ok p := by
  rw [readPort, Text.parseBelow_eq_some_iff.2 h]

theorem readPort_eq_error {shown s : List Char} (h : NoPort s) :
    readPort shown s = .error (.port (String.ofList shown)) := by
  rw [readPort, Text.parseBelow_eq_none_iff.2 h]

theorem writes_or_noPort (s : List Char) : (∃ p : Port, Text.Writes s p) ∨ NoPort s := by
  by_cases h : ∃ p : Port, Text.Writes s p
  · exact .inl h
  · exact .inr (not_exists.1 h)

variable {part : List Char}

theorem read_of_names {r : PortRange} (h : Names (Text.trim part) r) : read part = .ok r := by
  rw [read]
  generalize Text.trim part = t at h
  obtain ⟨p, q, hpq⟩ := r
  cases h with
  | port ht hp hlast =>
    obtain rfl : q = p := hlast
    rw [Text.splitFirst_of_notMem ht]
    simp only [readPort_eq_ok hp]
    rfl
  | span ha hp hq =>
    rw [Text.splitFirst_append ha]
    simp only [readPort_eq_ok hp, readPort_eq_ok hq, bind, Except.bind, dif_pos hpq]
    rfl

theorem read_of_blames {f : PortFault} (h : Blames (Text.trim part) f) :
    read part = .error f := by
  rw [read]
  generalize Text.trim part = t at h
  cases h with
  | port ht hnone =>
    rw [Text.splitFirst_of_notMem ht]
    simp only [readPort_eq_error hnone]
    rfl
  | first ha hnone =>
    rw [Text.splitFirst_append ha]
    simp only [readPort_eq_error hnone]
    rfl
  | last ha hp hnone =>
    rw [Text.splitFirst_append ha]
    simp only [readPort_eq_ok hp, readPort_eq_error hnone]
    rfl
  | @order a b p q ha hp hq h =>
    rw [Text.splitFirst_append ha]
    have hnot : ¬ p ≤ q := Nat.not_le_of_lt h
    simp only [readPort_eq_ok hp, readPort_eq_ok hq, bind, Except.bind, dif_neg hnot]

/-- A part names a range or is at fault. -/
theorem names_or_blames (t : List Char) : (∃ r, Names t r) ∨ ∃ f, Blames t f := by
  by_cases hyphen : '-' ∈ t
  · obtain ⟨a, b, rfl, ha⟩ := List.eq_append_cons_of_mem hyphen
    rcases writes_or_noPort (Text.trim a) with ⟨p, hp⟩ | hnone
    · rcases writes_or_noPort (Text.trim b) with ⟨q, hq⟩ | hnone
      · by_cases h : p ≤ q
        · exact .inl ⟨⟨p, q, h⟩, .span ha hp hq⟩
        · exact .inr ⟨_, .order ha hp hq (Nat.lt_of_not_le h)⟩
      · exact .inr ⟨_, .last ha hp hnone⟩
    · exact .inr ⟨_, .first ha hnone⟩
  · rcases writes_or_noPort t with ⟨p, hp⟩ | hnone
    · exact .inl ⟨⟨p, p, Nat.le_refl _⟩, .port hyphen hp rfl⟩
    · exact .inr ⟨_, .port hyphen hnone⟩

theorem read_eq_ok_iff {r : PortRange} : read part = .ok r ↔ Names (Text.trim part) r := by
  refine ⟨fun h => ?_, read_of_names⟩
  rcases names_or_blames (Text.trim part) with ⟨r', hr'⟩ | ⟨f, hf⟩
  · rw [read_of_names hr'] at h
    cases h
    exact hr'
  · rw [read_of_blames hf] at h
    cases h

theorem read_eq_error_iff {f : PortFault} : read part = .error f ↔ Blames (Text.trim part) f := by
  refine ⟨fun h => ?_, read_of_blames⟩
  rcases names_or_blames (Text.trim part) with ⟨r, hr⟩ | ⟨f', hf'⟩
  · rw [read_of_names hr] at h
    cases h
  · rw [read_of_blames hf'] at h
    cases h
    exact hf'

end PortRange

/-! ## The whole list -/

open PortRange (Names Blames)

/-- The parts of a list of ports. -/
def portParts (spec : String) : List (List Char) := Text.splitAll ',' spec.toList

/-- The list with these parts. -/
def joinParts (parts : List (List Char)) : String := String.ofList (Text.joinWith [','] parts)

variable {spec : String} {ports : List Port} {rs : List PortRange} {f : PortFault}

/-- The parts of a list are what stands between its commas. -/
theorem portParts_eq_iff {parts : List (List Char)} : portParts spec = parts ↔
    parts ≠ [] ∧ (∀ part ∈ parts, ',' ∉ part) ∧ joinParts parts = spec := by
  have hjoin : Text.joinWith [','] parts = spec.toList ↔ joinParts parts = spec := by
    rw [joinParts, ← String.toList_inj, String.toList_ofList]
  rw [portParts, Text.splitAll_eq_iff, hjoin]

/-- There is always a part, if only an empty one. -/
theorem exists_mem_portParts (spec : String) : ∃ part, part ∈ portParts spec :=
  List.exists_mem_of_ne_nil _ (portParts_eq_iff.1 rfl).1

theorem readPorts_of_ok (h : (portParts spec).mapM PortRange.read = .ok rs) :
    readPorts spec = .ok (portsOf rs) := by
  rw [readPorts, ← portParts, h]
  rfl

theorem readPorts_of_error (h : (portParts spec).mapM PortRange.read = .error f) :
    readPorts spec = .error f := by
  rw [readPorts, ← portParts, h]
  rfl

theorem PortRange.mem_ports {r : PortRange} {p : Port} :
    p ∈ r.ports ↔ r.first ≤ p ∧ p ≤ r.last := by
  have hr : r.first.val ≤ r.last.val := r.first_le_last
  simp only [PortRange.ports, List.mem_ofFn, Fin.ext_iff, Fin.le_def]
  constructor
  · rintro ⟨⟨i, hi⟩, hp⟩
    dsimp only at hp
    omega
  · intro h
    exact ⟨⟨p - r.first, by omega⟩, Nat.add_sub_cancel' h.1⟩

/-- Of ports in order the repeated ones are left out, where those in `acc` came before them. -/
theorem eraseReps_loop (p : Port) (ps acc : List Port) (hps : (p :: ps).Pairwise (· ≤ ·))
    (hacc : (p :: acc).Pairwise (· > ·)) :
    (List.eraseRepsBy.loop (· == ·) p ps acc).Pairwise (· < ·) ∧
      ∀ q, q ∈ List.eraseRepsBy.loop (· == ·) p ps acc ↔ q ∈ p :: ps ∨ q ∈ acc := by
  induction ps generalizing p acc with
  | nil =>
      rw [List.eraseRepsBy.loop]
      exact ⟨List.pairwise_reverse.2 hacc, fun q => by simp [or_comm]⟩
  | cons p' ps ih =>
      obtain ⟨hp, hps'⟩ := List.pairwise_cons.1 hps
      rw [List.eraseRepsBy.loop]
      by_cases h : p = p'
      · subst h
        obtain ⟨hlt, hmem⟩ := ih p acc hps' hacc
        simp only [beq_self_eq_true]
        exact ⟨hlt, fun q => (hmem q).trans (by simp)⟩
      · have hlt : p < p' := lt_of_le_of_ne (hp p' List.mem_cons_self) h
        have hacc' : (p' :: p :: acc).Pairwise (· > ·) := by
          refine List.pairwise_cons.2 ⟨fun q hq => ?_, hacc⟩
          rcases List.mem_cons.1 hq with rfl | hq
          · exact hlt
          · exact ((List.pairwise_cons.1 hacc).1 q hq).trans hlt
        obtain ⟨hpairwise, hmem⟩ := ih p' (p :: acc) hps' hacc'
        rw [beq_false_of_ne h]
        refine ⟨hpairwise, fun q => (hmem q).trans ?_⟩
        simp only [List.mem_cons]
        tauto

/-- Of ports in order the repeated ones are left out. -/
theorem eraseReps_of_sorted {ps : List Port} (h : ps.Pairwise (· ≤ ·)) :
    ps.eraseReps.Pairwise (· < ·) ∧ ∀ p, p ∈ ps.eraseReps ↔ p ∈ ps := by
  cases ps with
  | nil => exact ⟨.nil, fun p => Iff.rfl⟩
  | cons p ps =>
      obtain ⟨hlt, hmem⟩ := eraseReps_loop p ps [] h (List.pairwise_singleton _ _)
      exact ⟨hlt, fun q => (hmem q).trans (or_iff_left List.not_mem_nil)⟩

theorem pairwise_mergeSort_ports (ps : List Port) :
    (ps.mergeSort fun p q => p ≤ q).Pairwise (· ≤ ·) := by
  have hsorted : (ps.mergeSort fun p q => p ≤ q).Pairwise fun p q => decide (p ≤ q) = true := by
    refine List.pairwise_mergeSort (fun p q r hpq hqr => ?_) (fun p q => ?_) ps
    · rw [decide_eq_true_eq] at hpq hqr ⊢
      exact hpq.trans hqr
    · simpa using le_total p q
  exact hsorted.imp of_decide_eq_true

theorem mem_portsOf {p : Port} : p ∈ portsOf rs ↔ ∃ r ∈ rs, r.first ≤ p ∧ p ≤ r.last := by
  rw [portsOf, (eraseReps_of_sorted (pairwise_mergeSort_ports _)).2, List.mem_mergeSort,
    List.mem_flatMap]
  simp only [PortRange.mem_ports]

/-- Each port is listed once, and they are in order. -/
theorem pairwise_portsOf (rs : List PortRange) : (portsOf rs).Pairwise (· < ·) :=
  (eraseReps_of_sorted (pairwise_mergeSort_ports _)).1

/-- A list of ports in order is the list of the ports that are in it. -/
theorem eq_portsOf (hports : ports.Pairwise (· < ·))
    (h : ∀ p, p ∈ ports ↔ ∃ r ∈ rs, r.first ≤ p ∧ p ≤ r.last) : ports = portsOf rs :=
  hports.eq_of_mem_iff (pairwise_portsOf rs) fun p => (h p).trans mem_portsOf.symm

/-- To sort the ports of all ranges and to leave out what is repeated comes to the same as to go
through all ports in order. -/
theorem portsOf_eq_filter (rs : List PortRange) : portsOf rs =
    (List.finRange 65536).filter fun p => rs.any fun r => r.first ≤ p && p ≤ r.last :=
  (eq_portsOf ((List.pairwise_lt_finRange 65536).filter _) fun p => by simp).symm

/-- The ports that are read are the union of what the parts name. -/
theorem readPorts_eq_ok_iff :
    readPorts spec = .ok ports ↔ (∀ part ∈ portParts spec, ∃ r, Names (Text.trim part) r) ∧
      ports.Pairwise (· < ·) ∧ ∀ p, p ∈ ports ↔
        ∃ part ∈ portParts spec, ∃ r, Names (Text.trim part) r ∧ r.first ≤ p ∧ p ≤ r.last := by
  have hunion : ∀ rs, (portParts spec).mapM PortRange.read = .ok rs → ∀ p,
      (∃ r ∈ rs, r.first ≤ p ∧ p ≤ r.last) ↔
        ∃ part ∈ portParts spec, ∃ r, Names (Text.trim part) r ∧ r.first ≤ p ∧ p ≤ r.last := by
    intro rs hrs p
    simp only [(mem_of_mapM_eq_ok hrs).2, PortRange.read_eq_ok_iff]
    exact ⟨fun ⟨r, ⟨part, hpart, hr⟩, hp⟩ => ⟨part, hpart, r, hr, hp⟩,
      fun ⟨part, hpart, r, hr, hp⟩ => ⟨r, ⟨part, hpart, hr⟩, hp⟩⟩
  constructor
  · intro h
    cases hrs : (portParts spec).mapM PortRange.read with
    | error f =>
      rw [readPorts_of_error hrs] at h
      cases h
    | ok rs =>
      rw [readPorts_of_ok hrs] at h
      obtain rfl := Except.ok.inj h
      refine ⟨fun part hpart => ?_, pairwise_portsOf rs, fun p => ?_⟩
      · obtain ⟨r, hr⟩ := (mem_of_mapM_eq_ok hrs).1 part hpart
        exact ⟨r, PortRange.read_eq_ok_iff.1 hr⟩
      · exact mem_portsOf.trans (hunion rs hrs p)
  · rintro ⟨hall, hports, hmem⟩
    have hread : ∀ part ∈ portParts spec, ∃ r, PortRange.read part = .ok r := fun part hpart =>
      (hall part hpart).imp fun r => PortRange.read_of_names
    obtain ⟨rs, hrs⟩ := exists_mapM_eq_ok hread
    rw [readPorts_of_ok hrs, eq_portsOf hports fun p => (hmem p).trans (hunion rs hrs p).symm]

/-- The first part at fault is reported. -/
theorem readPorts_eq_error_iff :
    readPorts spec = .error f ↔ ∃ before part after, portParts spec = before ++ part :: after ∧
      (∀ b ∈ before, ∃ r, Names (Text.trim b) r) ∧ Blames (Text.trim part) f := by
  have hmapM : readPorts spec = .error f ↔ (portParts spec).mapM PortRange.read = .error f := by
    cases hrs : (portParts spec).mapM PortRange.read with
    | ok rs =>
      rw [readPorts_of_ok hrs]
      exact ⟨nofun, nofun⟩
    | error e => rw [readPorts_of_error hrs, Except.error.injEq, Except.error.injEq]
  simp only [hmapM, mapM_eq_error_iff, PortRange.read_eq_ok_iff, PortRange.read_eq_error_iff]

/-! ## Writing the list in another way -/

/-- Only the parts count, not their order nor how often they stand in the list. -/
theorem readPorts_of_same_parts (h : readPorts spec = .ok ports) {parts : List (List Char)}
    (hparts : ∀ part, part ∈ parts ↔ part ∈ portParts spec) :
    readPorts (joinParts parts) = .ok ports := by
  have hne : parts ≠ [] := by
    obtain ⟨part, hpart⟩ := exists_mem_portParts spec
    exact List.ne_nil_of_mem ((hparts part).2 hpart)
  have hcomma : ∀ part ∈ parts, ',' ∉ part := fun part hpart =>
    (portParts_eq_iff.1 rfl).2.1 part ((hparts part).1 hpart)
  have hjoin : portParts (joinParts parts) = parts := portParts_eq_iff.2 ⟨hne, hcomma, rfl⟩
  rw [readPorts_eq_ok_iff] at h ⊢
  simpa only [hjoin, hparts] using h

theorem notMem_digits {c : Char} (hc : Text.isDigit c = false) (n : Nat) : c ∉ Text.digits n := by
  intro h
  rw [Text.isDigit_of_mem_digits h] at hc
  cases hc

/-- The numeral of a port names that port. -/
theorem names_digits (r : PortRange) (h : r.last = r.first) :
    Names (Text.trim (Text.digits r.first)) r := by
  have htrimmed : Text.IsTrimmed (Text.digits r.first) := Text.isTrimmed_of_noBlank fun c hc =>
    Text.isBlank_of_isDigit (Text.isDigit_of_mem_digits hc)
  rw [htrimmed.trim_eq]
  exact .port (notMem_digits rfl r.first) (Text.writes_digits r.first) h

/-- Some port is named by each part. -/
theorem ne_nil_of_readPorts (h : readPorts spec = .ok ports) : ports ≠ [] := by
  obtain ⟨hall, -, hmem⟩ := readPorts_eq_ok_iff.1 h
  obtain ⟨part, hpart⟩ := exists_mem_portParts spec
  obtain ⟨r, hr⟩ := hall part hpart
  exact List.ne_nil_of_mem ((hmem r.first).2 ⟨part, hpart, r, hr, Nat.le_refl _, r.first_le_last⟩)

/-- Ports in order are read again from their numerals. -/
theorem readPorts_numerals (hne : ports ≠ []) (hports : ports.Pairwise (· < ·)) :
    readPorts (Text.joinTexts "," (ports.map fun p : Port => Text.decimal p)) = .ok ports := by
  let parts := ports.map fun p : Port => Text.digits p
  have hjoin : Text.joinTexts "," (ports.map fun p : Port => Text.decimal p) = joinParts parts := by
    rw [Text.joinTexts, joinParts, List.map_map]
    have hcomma : ",".toList = [','] := rfl
    have htext : ∀ p : Port, (Text.decimal p).toList = Text.digits p := fun _ =>
      String.toList_ofList
    rw [hcomma, Function.comp_def, funext htext]
  have hparts : portParts (joinParts parts) = parts := by
    refine portParts_eq_iff.2 ⟨fun h => hne (List.map_eq_nil_iff.1 h), fun part hpart => ?_, rfl⟩
    obtain ⟨p, -, rfl⟩ := List.mem_map.1 hpart
    exact notMem_digits rfl p
  rw [hjoin, readPorts_eq_ok_iff, hparts, List.forall_mem_map]
  have hname : ∀ p : Port, Names (Text.trim (Text.digits p)) ⟨p, p, Nat.le_refl _⟩ := fun p =>
    names_digits ⟨p, p, Nat.le_refl _⟩ rfl
  refine ⟨fun p _ => ⟨_, hname p⟩, hports, fun p => ?_⟩
  constructor
  · intro hp
    exact ⟨_, List.mem_map_of_mem hp, _, hname p, Nat.le_refl _, Nat.le_refl _⟩
  · rintro ⟨part, hpart, r, hr, hfirst, hlast⟩
    obtain ⟨q, hq, rfl⟩ := List.mem_map.1 hpart
    -- the numeral names nothing but its port
    have hread := PortRange.read_of_names (hname q)
    rw [PortRange.read_of_names hr] at hread
    cases hread
    have heq : q = p := Fin.ext (Nat.le_antisymm hfirst hlast)
    rwa [← heq]

/-- **What a list of ports denotes.** Ports are read exactly if each of the parts, trimmed, names a
range. They are in increasing order, and are those from a first to a last port that some part names.
The same ports are read if the parts stand in another order or stand there several times, and they
are read from their own numerals with commas between them. Otherwise the fault is that of the first
part that names nothing. -/
theorem readPorts_denotes (spec : String) :
    ((∃ ports, readPorts spec = .ok ports) ↔
      ∀ part ∈ portParts spec, ∃ r, Names (Text.trim part) r) ∧
    (∀ ports, readPorts spec = .ok ports →
      ports.Pairwise (· < ·) ∧
      (∀ p, p ∈ ports ↔
        ∃ part ∈ portParts spec, ∃ r, Names (Text.trim part) r ∧ r.first ≤ p ∧ p ≤ r.last) ∧
      (∀ parts : List (List Char), (∀ part, part ∈ parts ↔ part ∈ portParts spec) →
        readPorts (joinParts parts) = .ok ports) ∧
      readPorts (Text.joinTexts "," (ports.map fun p : Port => Text.decimal p)) = .ok ports) ∧
    ∀ f, readPorts spec = .error f ↔
      ∃ before part after, portParts spec = before ++ part :: after ∧
        (∀ b ∈ before, ∃ r, Names (Text.trim b) r) ∧ Blames (Text.trim part) f := by
  refine ⟨⟨?_, fun hall => ?_⟩, fun ports h => ?_, fun f => readPorts_eq_error_iff⟩
  · rintro ⟨ports, h⟩
    exact (readPorts_eq_ok_iff.1 h).1
  · cases h : readPorts spec with
    | ok ports => exact ⟨ports, rfl⟩
    | error f =>
      -- the part at fault would name a range
      obtain ⟨before, part, after, hsplit, -, hblames⟩ := readPorts_eq_error_iff.1 h
      obtain ⟨r, hr⟩ := hall part (by simp [hsplit])
      have hread := PortRange.read_of_names hr
      rw [PortRange.read_of_blames hblames] at hread
      cases hread
  · obtain ⟨-, hports, hmem⟩ := readPorts_eq_ok_iff.1 h
    exact ⟨hports, hmem, fun parts => readPorts_of_same_parts h,
      readPorts_numerals (ne_nil_of_readPorts h) hports⟩

/-- A port that is named twice, and the last two ports. -/
def overlapping : String := "22, 65534 - 65535,+22"

/-- The ports are read once each, and again from their numerals. -/
theorem readPorts_overlapping : ∃ ports, readPorts overlapping = .ok ports ∧
    ports.Pairwise (· < ·) ∧ (∀ p, p ∈ ports ↔ p = 22 ∨ 65534 ≤ p) ∧
    readPorts (Text.joinTexts "," (ports.map fun p : Port => Text.decimal p)) = .ok ports := by
  have hparts : portParts overlapping
      = ["22".toList, " 65534 - 65535".toList, "+22".toList] := by decide
  have hsingle : PortRange.read "22".toList = .ok ⟨22, 22, by decide⟩ := by decide +kernel
  have hrange : PortRange.read " 65534 - 65535".toList = .ok ⟨65534, 65535, by decide⟩ := by
    decide +kernel
  have hplus : PortRange.read "+22".toList = .ok ⟨22, 22, by decide⟩ := by decide +kernel
  have hnames : ∀ part ∈ portParts overlapping, ∃ r, Names (Text.trim part) r := by
    rw [hparts, List.forall_mem_cons, List.forall_mem_cons, List.forall_mem_cons]
    exact ⟨⟨_, PortRange.read_eq_ok_iff.1 hsingle⟩, ⟨_, PortRange.read_eq_ok_iff.1 hrange⟩,
      ⟨_, PortRange.read_eq_ok_iff.1 hplus⟩, nofun⟩
  obtain ⟨hok, hdenotes, -⟩ := readPorts_denotes overlapping
  obtain ⟨ports, h⟩ := hok.2 hnames
  obtain ⟨hports, hmem, -, hagain⟩ := hdenotes ports h
  refine ⟨ports, h, hports, fun p => ?_, hagain⟩
  rw [hmem, hparts]
  simp only [← PortRange.read_eq_ok_iff, List.mem_cons, List.not_mem_nil, or_false,
    exists_eq_or_imp, exists_eq_left, hsingle, hrange, hplus, Except.ok.injEq, exists_eq_left',
    Fin.le_def, Fin.ext_iff]
  have hlast : p.val < 65536 := p.isLt
  have hvalues : ((22 : Port).val = 22 ∧ (65534 : Port).val = 65534) ∧ (65535 : Port).val = 65535 :=
    ⟨⟨rfl, rfl⟩, rfl⟩
  omega

end VulnScan.Net
