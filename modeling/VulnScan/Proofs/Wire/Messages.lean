import VulnScan.Proofs.Json.Records
import VulnScan.Proofs.Net.Addresses
import VulnScan.Wire.LanguageServer

/-! # Messages come back as they were sent

Hosts, services, definitions of plugins and the messages made of them are read from their JSON texts
as they were (`messages_faithful`), whatever their texts, addresses and ports are and whichever
parts are missing. Each codec below is faithful because its fields keep their values.
-/

set_option autoImplicit false

namespace VulnScan.Wire

open Json Json.Codec Json.Field

/-! ## Hosts and services -/

theorem address_faithful : address.Faithful :=
  worded_faithful fun a => by simp [Net.Address.ofText?_text]

theorem port_faithful : port.Faithful := below_faithful (by decide) _

theorem word_faithful : word.Faithful := below_faithful (by decide) _

theorem longWord_faithful : longWord.Faithful := below_faithful (Nat.le_refl _) _

/-- A field that may be missing keeps its value. -/
theorem keeps_option {α : Type} {name : String} {c : Codec α} (h : c.Faithful) (a : Option α) :
    (optional name c).Keeps a a :=
  keeps_optional (h.option_returns a) id

/-- A list that is written only if it has items keeps its items. -/
theorem keeps_list {α : Type} {name : String} {c : Codec α} (h : c.Faithful) (as : List α) :
    (listed name c).Keeps as as :=
  keeps_listed ((list_faithful h).returns as) id

theorem endpoint_faithful : endpoint.Faithful :=
  recordOf_faithful (by decide)
    (fun e => ⟨keeps_option address_faithful e.address, keeps_option string_faithful e.hostname,
      keeps_option port_faithful e.port, trivial⟩)
    fun _ => rfl

theorem transport_faithful : transport.Faithful :=
  choice_faithful (by intro t; cases t <;> decide) (by decide)

theorem software_faithful : software.Faithful :=
  recordOf_faithful (by decide)
    (fun s => ⟨keeps_required (string_faithful.returns s.name),
      keeps_option string_faithful s.version, trivial⟩)
    fun _ => rfl

theorem service_faithful : service.Faithful :=
  recordOf_faithful (by decide)
    (fun s => ⟨keeps_required (endpoint_faithful.returns s.endpoint),
      keeps_defaulted (transport_faithful.returns s.transport),
      keeps_defaulted (string_faithful.returns s.name), keeps_option software_faithful s.software,
      keeps_list string_faithful s.banner, keeps_option string_faithful s.webRoot, trivial⟩)
    fun _ => rfl

theorem systemGuess_faithful : systemGuess.Faithful :=
  recordOf_faithful (by decide)
    (fun g => ⟨keeps_defaulted (string_faithful.returns g.vendor),
      keeps_defaulted (string_faithful.returns g.family),
      keeps_defaulted (string_faithful.returns g.generation),
      keeps_defaulted (word_faithful.returns g.accuracy), trivial⟩)
    fun _ => rfl

theorem host_faithful : host.Faithful :=
  recordOf_faithful (by decide)
    (fun h => ⟨keeps_defaulted ((list_faithful endpoint_faithful).returns h.endpoints),
      keeps_defaulted ((list_faithful systemGuess_faithful).returns h.systems), trivial⟩)
    fun _ => rfl

theorem surveyAs_faithful (title : String) : (surveyAs title).Faithful :=
  recordOf_faithful (by decide)
    (fun s => ⟨keeps_required (host_faithful.returns s.host),
      keeps_required ((list_faithful service_faithful).returns s.services), trivial⟩)
    fun _ => rfl

/-! ## Plugins -/

theorem role_faithful : role.Faithful :=
  choice_faithful (by intro r; cases r <;> decide) (by decide)

theorem systemFilter_faithful : systemFilter.Faithful :=
  recordOf_faithful (by decide)
    (fun f => ⟨keeps_defaulted ((list_faithful string_faithful).returns f.vendors),
      keeps_defaulted ((list_faithful string_faithful).returns f.families),
      keeps_defaulted (word_faithful.returns f.minAccuracy), trivial⟩)
    fun _ => rfl

/-- That there are no names of services is not the same as an empty list of them. -/
theorem definition_faithful : definition.Faithful :=
  recordOf_faithful (by decide)
    (fun d => ⟨keeps_required (role_faithful.returns d.role),
      keeps_required (string_faithful.returns d.name),
      keeps_required (string_faithful.returns d.author),
      keeps_required (string_faithful.returns d.version), keeps_worded d.description,
      keeps_option (list_faithful string_faithful) d.serviceNames,
      keeps_option string_faithful d.software, keeps_defaulted (bool_faithful.returns d.forWeb),
      keeps_option systemFilter_faithful d.systems,
      keeps_defaulted (bool_faithful.returns d.needsCallback), trivial⟩)
    fun _ => rfl

theorem matched_faithful : matched.Faithful :=
  recordOf_faithful (by decide)
    (fun m => ⟨keeps_required (definition_faithful.returns m.plugin),
      keeps_defaulted ((list_faithful service_faithful).returns m.services), trivial⟩)
    fun _ => rfl

/-! ## Messages -/

theorem listResponse_faithful : listResponse.Faithful :=
  recordOf_faithful (by decide)
    (fun ds => ⟨keeps_defaulted ((list_faithful definition_faithful).returns ds), trivial⟩)
    fun _ => rfl

theorem runRequest_faithful : runRequest.Faithful :=
  recordOf_faithful (by decide)
    (fun r => ⟨keeps_required (host_faithful.returns r.host),
      keeps_defaulted ((list_faithful matched_faithful).returns r.plugins), trivial⟩)
    fun _ => rfl

/-- Values survive being written and read, in both kinds of text, and no two are written alike. -/
def Survives {α : Type} (c : Codec α) : Prop :=
  (∀ a, c.read (c.compact a) = .ok a ∧ c.read (c.pretty a) = .ok a) ∧
    Function.Injective c.compact ∧ Function.Injective c.pretty

theorem survives_of_faithful {α : Type} {c : Codec α} (h : c.Faithful) : Survives c :=
  ⟨fun a => ⟨(h.returns a).read_compact, (h.returns a).read_pretty⟩, h.compact_injective,
    h.pretty_injective⟩

/-- **What is sent to a language server, and what it tells about its plugins, comes back as it
was.** -/
theorem messages_survive :
    Survives runRequest ∧ Survives listResponse ∧ Survives matched ∧ Survives definition :=
  ⟨survives_of_faithful runRequest_faithful, survives_of_faithful listResponse_faithful,
    survives_of_faithful matched_faithful, survives_of_faithful definition_faithful⟩

end VulnScan.Wire
