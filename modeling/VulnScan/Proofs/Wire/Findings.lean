import VulnScan.Proofs.Json.Members
import VulnScan.Proofs.Number.Scores
import VulnScan.Proofs.Time.Timestamps
import VulnScan.Proofs.Wire.Messages

/-! # Reports and results in the archive

What is read back from archived reports and results: everything, but for two things. Scores that
are not finite numbers are written as null and come back as missing (`Vulnerability.archived` and so
on). Leap seconds that follow another second than 59 come back as the next second
(`Report.settled`, `Results.settled`); no report that was read from a text has one
(`settled_of_runResponse`).
-/

set_option autoImplicit false

namespace VulnScan.Finding

/-- The advisory as it is read back: a score that is not finite is lost. -/
def Vulnerability.archived (v : Vulnerability) : Vulnerability :=
  { v with score := v.score.filter Number.Single.isFinite }

/-- The report as it is read back. -/
def Report.archived (r : Report) : Report := { r with vulnerability := r.vulnerability.archived }

/-- The finding as it is read back. -/
def Exposure.archived (e : Exposure) : Exposure :=
  { e with vulnerability := e.vulnerability.archived }

/-- The results as they are read back. -/
def Results.archived (r : Results) : Results :=
  { r with findings := r.findings.map Exposure.archived, reports := r.reports.map Report.archived }

/-- The report with the time that its text stands for. -/
def Report.settled (r : Report) : Report := { r with time := r.time.settled }

/-- The results with the times that their texts stand for. -/
def Results.settled (r : Results) : Results :=
  { r with start := r.start.settled, reports := r.reports.map Report.settled }

/-- All timestamps in results. -/
def Results.times (r : Results) : List Time.Timestamp := r.start :: r.reports.map Report.time

/-- The advisory is kept exactly if its score is finite or missing. -/
theorem Vulnerability.archived_eq_iff {v : Vulnerability} :
    v.archived = v ↔ ∀ x, v.score = some x → x.isFinite = true := by
  rw [archived, Vulnerability.mk.injEq]
  cases v.score <;> simp [Option.filter_some]

theorem Report.archived_eq_iff {r : Report} :
    r.archived = r ↔ ∀ x, r.vulnerability.score = some x → x.isFinite = true := by
  rw [← Vulnerability.archived_eq_iff, archived, Report.mk.injEq]
  simp only [true_and]

theorem Exposure.archived_eq_iff {e : Exposure} :
    e.archived = e ↔ ∀ x, e.vulnerability.score = some x → x.isFinite = true := by
  rw [← Vulnerability.archived_eq_iff, archived, Exposure.mk.injEq]
  simp only [true_and]

/-- The scores of reports. -/
def scoresOf (reports : List Report) : List Number.Single :=
  reports.filterMap fun r => r.vulnerability.score

/-- All scores in results. -/
def Results.scores (r : Results) : List Number.Single :=
  (r.findings.filterMap fun e => e.vulnerability.score) ++ scoresOf r.reports

/-- A list is kept as a whole exactly if every item of it is. -/
theorem map_eq_self_iff {α : Type} {f : α → α} {as : List α} :
    as.map f = as ↔ ∀ a ∈ as, f a = a := by
  simpa using List.map_inj_left (l := as) (f := f) (g := id)

/-- Reports are kept exactly if all their scores are finite. -/
theorem archived_reports_eq_iff {rs : List Report} :
    rs.map Report.archived = rs ↔ ∀ x ∈ scoresOf rs, x.isFinite = true := by
  simp only [map_eq_self_iff, Report.archived_eq_iff, scoresOf, List.mem_filterMap]
  exact ⟨fun h x ⟨r, hr, hx⟩ => h r hr x hx, fun h r hr x hx => h x ⟨r, hr, hx⟩⟩

theorem Report.settled_eq_iff {r : Report} : r.settled = r ↔ r.time.isCivil = true := by
  rw [← Time.Timestamp.settled_eq_self_iff, settled, Report.mk.injEq]
  simp only [true_and, and_true]

/-- Results keep their times exactly if each of their leap seconds follows a second 59. -/
theorem Results.settled_eq_iff {r : Results} :
    r.settled = r ↔ ∀ t ∈ r.times, t.isCivil = true := by
  rw [settled, Results.mk.injEq]
  simp only [true_and, and_true, Time.Timestamp.settled_eq_self_iff, map_eq_self_iff,
    Report.settled_eq_iff, times, List.forall_mem_cons, List.forall_mem_map]

/-- Results are kept if all their scores are finite. -/
theorem Results.archived_eq {r : Results} (h : ∀ x ∈ r.scores, x.isFinite = true) :
    r.archived = r := by
  have hfindings : r.findings.map Exposure.archived = r.findings :=
    map_eq_self_iff.2 fun e he => Exposure.archived_eq_iff.2 fun x hx =>
      h x (List.mem_append_left _ (List.mem_filterMap.2 ⟨e, he, hx⟩))
  have hreports : r.reports.map Report.archived = r.reports :=
    archived_reports_eq_iff.2 fun x hx => h x (List.mem_append_right _ hx)
  rw [archived, hfindings, hreports]

end VulnScan.Finding

namespace VulnScan.Wire

open Json Json.Codec Json.Field Finding

/-! ## Parts of reports -/

theorem timestamp_returns (t : Time.Timestamp) : timestamp.Returns t t.settled :=
  worded_returns (by simp [Time.Timestamp.read_text, Except.mapError])

theorem severity_faithful : severity.Faithful :=
  choice_faithful (by intro s; cases s <;> decide) (by decide)

theorem verdict_faithful : verdict.Faithful :=
  choice_faithful (by intro v; cases v <;> decide) (by decide)

theorem status_faithful : status.Faithful :=
  choice_faithful (by intro s; cases s <;> decide) (by decide)

theorem vulnerabilityId_faithful : vulnerabilityId.Faithful :=
  recordOf_faithful (by decide)
    (fun i => ⟨keeps_required (string_faithful.returns i.publisher),
      keeps_required (string_faithful.returns i.value), trivial⟩)
    fun _ => rfl

theorem spanParts_secs (d : Time.Span) : (spanParts d).1.val = d.secs := by
  have hlt := d.nanos_lt
  refine (Fin.val_ofNat _ _).trans (Nat.mod_eq_of_lt ?_)
  simp only [Time.Span.secs, Time.spanBound, Time.nanosPerSecond] at hlt ⊢
  omega

theorem spanParts_nanos (d : Time.Span) : (spanParts d).2.val = d.subNanos := by
  refine (Fin.val_ofNat _ _).trans (Nat.mod_eq_of_lt ?_)
  simp only [Time.Span.subNanos, Time.nanosPerSecond, Number.wordBound]
  omega

/-- Seconds and nanoseconds make up the span again. -/
theorem spanOf_spanParts (d : Time.Span) : spanOf (spanParts d) = .ok d := by
  have hsum : (spanParts d).1 * Time.nanosPerSecond + (spanParts d).2 = d.nanos := by
    rw [spanParts_secs, spanParts_nanos, d.secs_mul_add]
  have hlt : (spanParts d).1 * Time.nanosPerSecond + (spanParts d).2 < Time.spanBound := by
    rw [hsum]
    exact d.nanos_lt
  have hspan : (⟨_, hlt⟩ : Time.Span) = d := by
    cases d
    exact (Time.Span.mk.injEq _ _ _ _).mpr hsum
  rw [spanOf, dif_pos hlt, hspan]

theorem span_faithful : span.Faithful := by
  refine checked_faithful (recordOf_faithful (by decide) (fun d => ?_) fun _ => rfl)
    spanOf_spanParts
  exact ⟨keeps_required (longWord_faithful.returns d.1),
    keeps_required (word_faithful.returns d.2), trivial⟩

/-! ## Reports -/

theorem vulnerability_returns (v : Vulnerability) : vulnerability.Returns v v.archived := by
  refine recordOf_returns (by decide) ⟨keeps_required (vulnerabilityId_faithful.returns v.mainId),
    keeps_defaulted (severity_faithful.returns v.severity),
    keeps_required (string_faithful.returns v.title),
    keeps_defaulted (string_faithful.returns v.description),
    keeps_defaulted (string_faithful.returns v.recommendation),
    keeps_list vulnerabilityId_faithful v.relatedIds,
    keeps_optional (score_returns v.score) ?_, trivial⟩ rfl
  intro hnone
  simp [Vulnerability.archived, hnone]

theorem report_returns (r : Report) : report.Returns r r.archived.settled :=
  recordOf_returns (by decide)
    ⟨keeps_required (host_faithful.returns r.host),
      keeps_required (service_faithful.returns r.service),
      keeps_required (timestamp_returns r.time),
      keeps_required (verdict_faithful.returns r.verdict),
      keeps_required (vulnerability_returns r.vulnerability), trivial⟩
    rfl

theorem exposure_returns (e : Exposure) : exposure.Returns e e.archived :=
  recordOf_returns (by decide)
    ⟨keeps_required (host_faithful.returns e.host),
      keeps_required (service_faithful.returns e.service),
      keeps_required (vulnerability_returns e.vulnerability), trivial⟩
    rfl

/-- Items that come back one by one come back as a list. -/
theorem map_returns {α : Type} {c : Codec α} {f : α → α} {as : List α}
    (h : ∀ a ∈ as, c.Returns a (f a)) : c.list.Returns as (as.map f) :=
  list_returns (List.forall₂_map_right_iff.2 (List.forall₂_same.2 h))

theorem reports_returns (rs : List Report) :
    reports.Returns rs (rs.map fun r => r.archived.settled) :=
  recordOf_returns (by decide)
    ⟨keeps_defaulted (map_returns fun r _ => report_returns r), trivial⟩ rfl

theorem runResponse_returns (rs : List Report) :
    runResponse.Returns rs (rs.map fun r => r.archived.settled) :=
  recordOf_returns (by decide) ⟨keeps_defaulted (reports_returns rs), trivial⟩ rfl

/-! ## Results -/

theorem survey_faithful : survey.Faithful := surveyAs_faithful _

theorem results_returns (r : Results) : results.Returns r r.archived.settled := by
  have hreports : r.archived.settled.reports = r.reports.map fun r => r.archived.settled :=
    List.map_map
  refine recordOf_returns (by decide)
    ⟨keeps_required (status_faithful.returns r.status), keeps_worded r.message,
      keeps_required (timestamp_returns r.start),
      keeps_required (span_faithful.returns r.duration),
      keeps_defaulted (map_returns fun e _ => exposure_returns e),
      keeps_defaulted ?_,
      keeps_option survey_faithful r.survey, trivial⟩
    rfl
  rw [hreports]
  exact reports_returns r.reports

/-- **Archived results with finite scores are read back**, from either text, with the times that
their texts stand for: so they come back as they were exactly if each of their leap seconds follows
a second 59. -/
theorem results_survive {r : Results} (hfinite : ∀ x ∈ r.scores, x.isFinite = true) :
    results.read (results.pretty r) = .ok r.settled ∧
      results.read (results.compact r) = .ok r.settled ∧
      (r.settled = r ↔ ∀ t ∈ r.times, t.isCivil = true) := by
  have hreturns := results_returns r
  rw [Results.archived_eq hfinite] at hreturns
  exact ⟨hreturns.read_pretty, hreturns.read_compact, Results.settled_eq_iff⟩

/-- Results with a score of 9.8, at a leap second. -/
def scoredResults : Results where
  status := .succeeded
  start := ⟨736694, 86399, 1500000000, by decide⟩
  duration := .ofMillis 2500
  findings := [⟨{}, ⟨{}, .tcp, "http", none, ["banner \" \\ \n"], none⟩,
    { mainId := ⟨"P", "V"⟩, title := "T", score := some ⟨0x411CCCCD⟩ }⟩]

theorem scoredResults_survives :
    results.read (results.pretty scoredResults) = .ok scoredResults.settled ∧
      results.read (results.compact scoredResults) = .ok scoredResults.settled ∧
      (scoredResults.settled = scoredResults ↔ ∀ t ∈ scoredResults.times, t.isCivil = true) := by
  have hscores : scoredResults.scores = [⟨0x411CCCCD⟩] := rfl
  refine results_survive fun x hx => ?_
  rw [hscores, List.mem_singleton] at hx
  subst hx
  decide

/-- Results that start in a leap second after a second 30. -/
def strayResults : Results where
  status := .succeeded
  start := ⟨738885, 30, 1300000000, by decide⟩
  duration := .ofMillis 2500

/-- There are no scores in these results, and yet neither text gives them back. -/
theorem strayResults_moved : (∀ x ∈ strayResults.scores, x.isFinite = true) ∧
    results.read (results.pretty strayResults) ≠ .ok strayResults ∧
    results.read (results.compact strayResults) ≠ .ok strayResults := by
  have hreturns := results_returns strayResults
  have hmoved : strayResults.archived.settled ≠ strayResults := by
    intro h
    have hstart : strayResults.start.settled = strayResults.start := congrArg Results.start h
    exact absurd (Time.Timestamp.settled_eq_self_iff.1 hstart) (by decide)
  rw [hreturns.read_pretty, hreturns.read_compact]
  exact ⟨nofun, fun h => hmoved (Except.ok.inj h), fun h => hmoved (Except.ok.inj h)⟩

/-! ## Responses -/

theorem isCivil_of_timestamp {v : Value} {t : Time.Timestamp} (h : timestamp.decode v = .ok t) :
    t.isCivil = true := by
  cases v with
  | string content =>
    obtain ⟨s, -, hread⟩ := bind_eq_ok_iff.1 h
    exact Time.Timestamp.isCivil_of_read (mapError_eq_ok_iff.1 (mapError_eq_ok_iff.1 hread))
  | null | bool _ | number _ | array _ _ | object _ _ | keyless _ | broken _ => cases h

theorem settled_of_report {v : Value} {r : Report} (h : report.decode v = .ok r) :
    r.settled = r := by
  obtain ⟨⟨host, service, time, verdict, vulnerability, ⟨⟩⟩, rfl, -, -, htime, -⟩ :=
    recordOf_takes (by decide) h
  obtain ⟨v, hv⟩ := decode_of_required htime
  exact Report.settled_eq_iff.2 (isCivil_of_timestamp hv)

theorem settled_of_reports {v : Value} {rs : List Report} (h : reports.decode v = .ok rs) :
    ∀ r ∈ rs, r.settled = r := by
  obtain ⟨⟨rs', ⟨⟩⟩, heq, hrs, -⟩ := recordOf_takes (by decide) h
  obtain rfl : rs' = rs := heq
  rcases decode_of_defaulted hrs with rfl | ⟨v, hv⟩
  · exact fun r hr => absurd hr List.not_mem_nil
  · intro r hr
    obtain ⟨v, hv⟩ := decode_of_mem_list hv r hr
    exact settled_of_report hv

/-- Every report of a response that was read has a time that is kept. -/
theorem settled_of_runResponse {s : String} {rs : List Report} (h : runResponse.read s = .ok rs) :
    ∀ r ∈ rs, r.settled = r := by
  obtain ⟨v, hv⟩ := decode_of_read h
  obtain ⟨⟨rs', ⟨⟩⟩, heq, hrs, -⟩ := recordOf_takes (by decide) hv
  obtain rfl : rs' = rs := heq
  rcases decode_of_defaulted hrs with rfl | ⟨v, hv⟩
  · exact fun r hr => absurd hr List.not_mem_nil
  · exact settled_of_reports hv

/-- What is lost of the reports of a response is scores. -/
theorem archived_of_runResponse {s : String} {rs : List Report} (h : runResponse.read s = .ok rs) :
    (rs.map fun r => r.archived.settled) = rs.map Report.archived := by
  refine List.map_congr_left fun r hr => ?_
  show r.settled.archived = r.archived
  rw [settled_of_runResponse h r hr]

/-- **Reports from a language server are kept but for the scores that are too large.** Whatever text
they were read from, they come back without the scores that are not finite, also from archived
results that hold them; so they come back as they were exactly if all scores are finite. -/
theorem response_archived {s : String} {rs : List Report} (hread : runResponse.read s = .ok rs) :
    runResponse.read (runResponse.compact rs) = .ok (rs.map Report.archived) ∧
      (∀ r : Results, r.reports = rs →
        (results.read (results.pretty r)).map Results.reports = .ok (rs.map Report.archived)) ∧
      (runResponse.read (runResponse.compact rs) = runResponse.read s ↔
        ∀ x ∈ scoresOf rs, x.isFinite = true) := by
  have hkept := archived_of_runResponse hread
  have hagain := (runResponse_returns rs).read_compact
  rw [hkept] at hagain
  refine ⟨hagain, fun r hr => ?_, ?_⟩
  · rw [(results_returns r).read_pretty, ← hkept, ← hr]
    exact congrArg Except.ok List.map_map
  · rw [hagain, hread]
    exact Iff.trans ⟨Except.ok.inj, congrArg _⟩ archived_reports_eq_iff

/-- A report with a score of 9.8. -/
def scoredReport : Report where
  host := {}
  service := { endpoint := {} }
  time := .epoch
  verdict := .verified
  vulnerability := { mainId := ⟨"P", "V"⟩, title := "T", score := some ⟨0x411CCCCD⟩ }

theorem scoredReport_archived :
    runResponse.read (runResponse.compact [scoredReport])
        = .ok ([scoredReport].map Report.archived) ∧
      (∀ r : Results, r.reports = [scoredReport] →
        (results.read (results.pretty r)).map Results.reports
          = .ok ([scoredReport].map Report.archived)) ∧
      (runResponse.read (runResponse.compact [scoredReport])
          = runResponse.read (runResponse.compact [scoredReport]) ↔
        ∀ x ∈ scoresOf [scoredReport], x.isFinite = true) := by
  have hread : runResponse.read (runResponse.compact [scoredReport]) = .ok [scoredReport] :=
    (runResponse_returns [scoredReport]).read_compact
  exact response_archived hread

/-- A response whose report has the score 1e39. -/
def largeScore : Value :=
  .record [("reports", .record [("detection_reports", .list [.record [
    ("target_info", .record [("network_endpoints", .list [.record [
      ("ip_address", .text "10.0.0.1")]])]),
    ("network_service", .record [
      ("network_endpoint", .record [("ip_address", .text "10.0.0.1"), ("port", .nat 80)]),
      ("transport_protocol", .text "TCP"), ("service_name", .text "http")]),
    ("detection_timestamp", .text "2024-01-01T00:00:00Z"),
    ("detection_status", .text "VULNERABILITY_VERIFIED"),
    ("vulnerability", .record [
      ("main_id", .record [("publisher", .text "P"), ("value", .text "V")]), ("title", .text "T"),
      ("cvss_v3_score", .number (Number.Single.layout.literal false ⟨1, 39⟩))])]])])]

theorem largeScore_sound : largeScore.Sound := by
  have hscore := Number.Single.layout.sound_literal false ⟨1, 39⟩
  have hport := Number.Literal.sound_ofNat 80
  simp [largeScore, Value.record, Value.list, Value.text, Value.nat, Value.Sound, SoundItems,
    SoundMembers, hscore, hport]

/-- The score is read as an infinite number. -/
theorem largeScore_scores :
    (runResponse.decode largeScore).toOption.map scoresOf = some [⟨0x7F800000⟩] := by
  decide +kernel

/-- The text of this response is accepted, but the report does not come back. -/
theorem largeScore_lost : ∃ rs, runResponse.read (String.ofList largeScore.compact) = .ok rs ∧
    runResponse.read (runResponse.compact rs) ≠ .ok rs := by
  have hread : runResponse.read (String.ofList largeScore.compact)
      = runResponse.decode largeScore := Codec.read_eq _ (spells_compact _ largeScore_sound)
  obtain ⟨rs, hrs, hscores⟩ := Option.map_eq_some_iff.1 largeScore_scores
  have hdecode : runResponse.decode largeScore = .ok rs := by
    cases h : runResponse.decode largeScore with
    | error fault => simp [h, Except.toOption] at hrs
    | ok rs' => simpa [h, Except.toOption] using hrs
  have hinfinite : ¬∀ x ∈ scoresOf rs, x.isFinite = true := by
    rw [hscores]
    decide
  have hagain := (runResponse_returns rs).read_compact
  rw [archived_of_runResponse (hread.trans hdecode)] at hagain
  refine ⟨rs, hread.trans hdecode, fun hsame => hinfinite (archived_reports_eq_iff.1 ?_)⟩
  exact Except.ok.inj (hagain.symm.trans hsame)

end VulnScan.Wire
