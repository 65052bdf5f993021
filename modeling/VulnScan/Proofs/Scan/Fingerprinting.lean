import VulnScan.Proofs.Plugin.Fingerprinters
import VulnScan.Proofs.Scan.Conclusion
import VulnScan.Proofs.Scan.Phases

/-! # What becomes of services

Fingerprinting takes the services of a survey apart, has a part of them identified by plugins that
run at the same time, and puts them together again. `Workflow.run_survey` says that no service is
lost, doubled or moved on the way: first come those without a fingerprinter, then, in their order,
what is known about each of the others.
-/

set_option autoImplicit false

namespace VulnScan.Scan

open Execution (Record Recorded Signals Moment Task)

variable {σ : Type}

/-- What is known about a service after its fingerprinter: what that reported, if it succeeded, and
otherwise the service as it was. -/
def afterwards (s : Net.Service) (record : Record (List Net.Service)) : List Net.Service :=
  match record.ending with
  | .succeeded services => services
  | .failed _ | .timedOut _ => [s]

namespace Workflow

/-- The services of a survey that have a fingerprinter. -/
def matched (w : Workflow σ) (ports : Net.Survey) : List Net.Service :=
  ports.services.filter fun s => (w.registry.fingerprinterFor s).isSome

/-- The record is that of the first registered plugin that identifies the service, in a scan that
is not cancelled: the plugin was called with the host and the service, and succeeded, failed, broke
off or was late. -/
def Fingerprinted (w : Workflow σ) (host : Net.Host) (s : Net.Service)
    (record : Record (List Net.Service)) : Prop :=
  ∃ before e after identify, w.registry.entries = before ++ e :: after ∧
    e.Identifies s identify ∧ (∀ e' ∈ before, ∀ f, ¬ e'.Identifies s f) ∧
    Recorded w.pool.deadline false (identify host s).MayEnd
      (w.task ⟨e.definition, identify, [s]⟩ (identify host s)) record

theorem identified_cons {s : Net.Service} {record : Record (List Net.Service)}
    (h : record.services = [s]) (records : List (Record (List Net.Service))) :
    identified (record :: records) = afterwards s record ++ identified records := by
  obtain ⟨plugin, services, ending, elapsed⟩ := record
  subst h
  cases ending <;> rfl

/-- The records of the second phase belong to the services with a fingerprinter, in their order,
and what is known afterwards is what is known about each of them. -/
theorem fingerprinted_of_recorded {w : Workflow σ} {ports : Net.Survey}
    {records : List (Record (List Net.Service))}
    (h : List.Forall₂ (fun t => Recorded w.pool.deadline false t.activity.MayEnd t)
      (w.identification ports) records) :
    List.Forall₂ (w.Fingerprinted ports.host) (w.matched ports) records ∧
      identified records = (List.zipWith afterwards (w.matched ports) records).flatten := by
  obtain ⟨host, services⟩ := ports
  unfold identification matched at *
  -- tasks and matched services run in step, because both pass over the same services
  induction services generalizing records with
  | nil =>
      cases h
      exact ⟨.nil, rfl⟩
  | cons s services ih =>
      cases hc : w.registry.fingerprinterFor s with
      | none =>
          simp only [List.filterMap_cons, hc, Option.map_none] at h
          simp only [List.filter_cons, hc, Option.isSome_none]
          exact ih h
      | some c =>
          obtain ⟨before, e, after, hentries, ⟨hid, hplugin, hservices⟩, hbefore⟩ :=
            Plugin.Registry.fingerprinterFor_eq_some.1 hc
          obtain ⟨plugin, identify, found⟩ := c
          obtain rfl : plugin = e.definition := hplugin
          obtain rfl : found = [s] := hservices
          simp only [List.filterMap_cons, hc, Option.map_some, List.map_cons] at h
          obtain ⟨record, records, hrecord, hrecords, rfl⟩ := List.forall₂_cons_left_iff.1 h
          obtain ⟨hall, hidentified⟩ := ih hrecords
          simp only [List.filter_cons, hc, Option.isSome_some, if_true]
          refine ⟨.cons ⟨before, e, after, identify, hentries, hid, hbefore, hrecord⟩ hall, ?_⟩
          rw [identified_cons hrecord.services_eq, hidentified, List.zipWith_cons_cons,
            List.flatten_cons]

/-- **No service is lost, doubled or moved.** In a scan that is not cancelled, the results have the
host as the port scanner saw it; the services without a fingerprinter, as often and in the order in
which the port scanner found them; and after these, in the same order, what is known about each of
the others after its fingerprinter. That is the first registered plugin that identifies the
service, and it has ended in any way or was late. -/
theorem run_survey (w : Workflow σ) (target : Net.Endpoint) (signals : Signals) (m : Moment σ) :
    (∀ s, w.registry.fingerprinterFor s = none ↔
      ∀ e ∈ w.registry.entries, ∀ identify, ¬ e.Identifies s identify) ∧
    (w.run target signals m).Meets
      (fun out m' => m'.cancelled = false →
        ∀ t ports m₁, w.scanPorts target signals m = .reached (t, .ok ports) m₁ →
          ∃ records m₂,
            w.pool.execute (w.identification ports) signals m₁ = .reached records m₂ ∧
            List.Forall₂ (w.Fingerprinted ports.host) (w.matched ports) records ∧
            out.2.survey = some ⟨ports.host,
              w.unmatched ports ++ (List.zipWith afterwards (w.matched ports) records).flatten⟩)
      (w.Excused target signals) := by
  refine ⟨fun s => Plugin.Registry.fingerprinterFor_eq_none, ?_⟩
  refine (w.run_meets target signals m).imp ?_ fun _ => id
  rintro ⟨t', r⟩ m' - ⟨-, hcomes⟩ hm' t ports m₁ hscan
  have hr : w.ComesTo target signals m m' r := hcomes
  show ∃ records m₂, _ ∧ _ ∧ r.survey = _
  cases hr with
  | cancelled called =>
      rw [hm'] at called
      cases called
  | failed _ scans =>
      rw [hscan] at scans
      cases scans
  | completed scans completes =>
      rw [hscan] at scans
      cases scans
      cases completes with
      | @mk records m₂ _ _ _ _ identifies uncancelled _ _ _ =>
          have hrecorded := ((w.pool.execute_meets _ signals m₁).of_reached identifies).1
          rw [uncancelled] at hrecorded
          obtain ⟨hall, hidentified⟩ := fingerprinted_of_recorded hrecorded
          refine ⟨records, m₂, identifies, hall, ?_⟩
          rw [conclude_eq, surveyed, hidentified]

end Workflow

end VulnScan.Scan
