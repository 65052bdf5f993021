import VulnScan.LanguageServer.Registration
import VulnScan.Proofs.Plugin.Replacement

/-! # Which language servers are registered

The plugin that stands for a language server is named after the server, and the registry holds one
plugin per identifier. So every server has its plugin, at its place in the list, exactly if no two
servers go by the same name (`onePerServer_iff`); servers that have no name in logs never do, since
they go by their numbers. Of servers with one name the last takes the place of the first
(`registerServers_kept`).
-/

set_option autoImplicit false

namespace VulnScan.LanguageServer

open Execution (Activity)

variable {σ : Type} {send : Post → Time.Span → Activity σ Delivery} {servers : List Config.Server}

/-! ## Names -/

/-- The name that the server with the number `i` goes by: its name in logs, or else its number. -/
def nameOf (i : Nat) (s : Config.Server) : String := s.logId.getD (Text.decimal i)

/-- The names that servers go by. -/
def namesOf (servers : List Config.Server) : List String :=
  servers.zipIdx.map fun p => nameOf p.2 p.1

/-- The identifier of the plugin that stands for a server, by the name of the server. -/
def pluginId (name : String) : String :=
  (Plugin.Definition.dynamic .host ("RemoteVulnDetector-" ++ name) "remote" false false).id

theorem pluginId_injective : Function.Injective pluginId := by
  intro a b h
  simp only [pluginId, Plugin.Definition.dynamic, Plugin.Definition.id, String.append_left_inj,
    String.append_right_inj] at h
  exact h

theorem entryOf_id (i : Nat) (s : Config.Server) :
    (entryOf send i s).id = pluginId (nameOf i s) := rfl

theorem map_id_entriesOf : (entriesOf send servers).map Plugin.Entry.id
    = (namesOf servers).map pluginId := by
  rw [entriesOf, namesOf, List.map_map, List.map_map]
  exact List.map_congr_left fun p _ => entryOf_id p.2 p.1

theorem getElem?_entriesOf (i : Nat) :
    (entriesOf send servers)[i]? = servers[i]?.map fun s => entryOf send i s := by
  rw [entriesOf, List.getElem?_map, List.getElem?_zipIdx, Option.map_map, Nat.zero_add]
  rfl

theorem getElem?_namesOf (i : Nat) : (namesOf servers)[i]? = servers[i]?.map (nameOf i) := by
  rw [namesOf, List.getElem?_map, List.getElem?_zipIdx, Option.map_map, Nat.zero_add]
  rfl

/-- Numbers are written differently. -/
theorem decimal_injective {m n : Nat} (h : Text.decimal m = Text.decimal n) : m = n := by
  have hdigits : Text.digits m = Text.digits n := String.ofList_inj.1 h
  rw [← Text.value_digits m, hdigits, Text.value_digits n]

/-- Servers that have no names in logs go by different names. -/
theorem nodup_namesOf (unnamed : ∀ s ∈ servers, s.logId = none) : (namesOf servers).Nodup := by
  refine List.nodup_iff_getElem?_ne_getElem?.2 fun i j hij hj heq => ?_
  have hlen : (namesOf servers).length = servers.length := by simp [namesOf]
  have hname : ∀ k (hk : k < servers.length), (namesOf servers)[k]? = some (Text.decimal k) := by
    intro k hk
    rw [getElem?_namesOf, List.getElem?_eq_getElem hk, Option.map_some, nameOf,
      unnamed _ (List.getElem_mem hk), Option.getD_none]
  rw [hname i (by omega), hname j (by omega)] at heq
  exact absurd (decimal_injective (Option.some.inj heq)) (by omega)

/-! ## What the plugin of a server does -/

/-- The client leads to the server: what it posts goes below the address of the server, where
slashes at the end of the address do not count, and answers are taken up to the limit of the
server. -/
structure Client.LeadsTo (c : Client σ) (send : Post → Time.Span → Activity σ Delivery)
    (s : Config.Server) : Prop where
  sends : c.send = send
  limit : c.inboundLimit = s.inboundLimit
  address : ∃ k, s.baseUrl.toList = c.baseUrl.toList ++ List.replicate k '/'
  bare : c.baseUrl.toList.getLast? ≠ some '/'

/-- The plugin stands for the server with the number `i`: it is a proxy with an empty queue that
asks this server, with the time that a call to it may take and the attempts to find it serving. -/
def StandsFor (send : Post → Time.Span → Activity σ Delivery) (i : Nat) (s : Config.Server)
    (e : Plugin.Entry σ) : Prop :=
  e.definition = definitionOf i s ∧ ∃ c : Client σ, c.LeadsTo send s ∧
    e.body = .host { server := c.server, backoff := .standard, attempts := s.attempts,
                     deadline := s.callLimit, queue := [] }

/-- What is dropped at the end of a text is all that is dropped, and nothing else. -/
theorem dropEnd_append (c : Char) (s : List Char) :
    ∃ k, s = Text.dropEnd c s ++ List.replicate k c := by
  refine ⟨(s.reverse.takeWhile (· == c)).length, ?_⟩
  have hdropped : s.reverse.takeWhile (· == c)
      = List.replicate (s.reverse.takeWhile (· == c)).length c := by
    refine List.eq_replicate_iff.2 ⟨rfl, fun x hx => ?_⟩
    simpa using List.all_eq_true.1 List.all_takeWhile x hx
  calc s = (s.reverse.takeWhile (· == c) ++ s.reverse.dropWhile (· == c)).reverse := by
        rw [List.takeWhile_append_dropWhile, List.reverse_reverse]
    _ = Text.dropEnd c s ++ (s.reverse.takeWhile (· == c)).reverse := by
        rw [List.reverse_append, Text.dropEnd]
    _ = _ := by rw [hdropped, List.reverse_replicate, List.length_replicate]

theorem getLast?_dropEnd (c : Char) (s : List Char) : (Text.dropEnd c s).getLast? ≠ some c := by
  intro h
  rw [Text.dropEnd, List.getLast?_reverse] at h
  have hhead := List.head?_dropWhile_not (· == c) s.reverse
  rw [h] at hhead
  simp at hhead

theorem clientOf_leadsTo (s : Config.Server) : (clientOf send s).LeadsTo send s := by
  have hurl : (clientOf send s).baseUrl.toList = Text.dropEnd '/' s.baseUrl.toList :=
    String.toList_ofList
  refine ⟨rfl, rfl, ?_, ?_⟩
  · rw [hurl]
    exact dropEnd_append '/' s.baseUrl.toList
  · rw [hurl]
    exact getLast?_dropEnd '/' s.baseUrl.toList

theorem entryOf_standsFor (i : Nat) (s : Config.Server) : StandsFor send i s (entryOf send i s) :=
  ⟨rfl, clientOf send s, clientOf_leadsTo s, rfl⟩

/-! ## What the registry holds -/

/-- The registry holds one plugin per server, in the order of the servers. -/
structure OnePerServer (send : Post → Time.Span → Activity σ Delivery)
    (servers : List Config.Server) (r : Plugin.Registry σ) : Prop where
  size : r.size = servers.length
  entry : ∀ i s, servers[i]? = some s → ∃ e, r.entries[i]? = some e ∧ StandsFor send i s e

/-- There is one plugin per server exactly if all servers go by different names. -/
theorem onePerServer_iff : OnePerServer send servers (registerServers send servers .empty)
    ↔ (namesOf servers).Nodup := by
  have hlen : (entriesOf send servers).length = servers.length := by simp [entriesOf]
  have hids : ((entriesOf send servers).map Plugin.Entry.id).Nodup ↔ (namesOf servers).Nodup := by
    rw [map_id_entriesOf, List.nodup_map_iff pluginId_injective]
  constructor
  · intro h
    rw [← hids, ← Plugin.Registry.size_foldl_register_eq, hlen]
    exact h.size
  · intro h
    have hentries : (registerServers send servers .empty).entries = entriesOf send servers :=
      Plugin.Registry.entries_foldl_register (hids.2 h)
    refine ⟨?_, fun i s hs => ⟨entryOf send i s, ?_, entryOf_standsFor i s⟩⟩
    · rw [Plugin.Registry.size, hentries, hlen]
    · rw [hentries, getElem?_entriesOf, hs, Option.map_some]

/-- Servers without names in logs are all registered. -/
theorem onePerServer_of_unnamed (unnamed : ∀ s ∈ servers, s.logId = none) :
    OnePerServer send servers (registerServers send servers .empty) :=
  onePerServer_iff.2 (nodup_namesOf unnamed)

/-- The plugin stands for the last of the servers that go by its name. -/
structure StandsForLast (send : Post → Time.Span → Activity σ Delivery)
    (servers : List Config.Server) (i : Nat) (s : Config.Server) (e : Plugin.Entry σ) : Prop where
  server : servers[i]? = some s
  stands : StandsFor send i s e
  last : ∀ j t, i < j → servers[j]? = some t → nameOf j t ≠ nameOf i s

theorem standsForLast_of_isLast {e : Plugin.Entry σ}
    (h : Plugin.IsLast (entriesOf send servers) e) : ∃ i s, StandsForLast send servers i s e := by
  obtain ⟨before, after, hes, hlast⟩ := h
  have hat : ∀ j : Nat, (entriesOf send servers)[j]? = (before ++ e :: after)[j]? :=
    fun j => by rw [hes]
  have hi := hat before.length
  rw [List.getElem?_append_right (Nat.le_refl _), Nat.sub_self, List.getElem?_cons_zero,
    getElem?_entriesOf, Option.map_eq_some_iff] at hi
  obtain ⟨s, hs, rfl⟩ := hi
  -- a later server of the same name would have left a plugin behind `e`
  refine ⟨before.length, s, hs, entryOf_standsFor _ s, fun j t hij ht heq => hlast ?_⟩
  have hj := hat j
  obtain ⟨k, rfl⟩ := Nat.exists_eq_add_of_lt hij
  rw [List.getElem?_append_right (by omega), getElem?_entriesOf, ht, Option.map_some,
    show before.length + k + 1 - before.length = k + 1 by omega, List.getElem?_cons_succ] at hj
  exact List.mem_map.2 ⟨_, List.mem_of_getElem? hj.symm, congrArg pluginId heq⟩

/-- **Which servers are registered**: the plugins have the names of the servers, each name at the
place where it first comes, and each plugin stands for the last server that goes by its name. So
every server has its own plugin, at its place and with its settings, exactly if all servers go by
different names. -/
theorem registerServers_kept (send : Post → Time.Span → Activity σ Delivery)
    (servers : List Config.Server) :
    let r := registerServers send servers .empty
    r.entries.map Plugin.Entry.id = ((namesOf servers).map pluginId).eraseDups ∧
    (∀ e ∈ r.entries, ∃ i s, StandsForLast send servers i s e) ∧
    (OnePerServer send servers r ↔ (namesOf servers).Nodup) ∧
    ((∀ s ∈ servers, s.logId = none) → OnePerServer send servers r) := by
  refine ⟨?_, fun e he => ?_, onePerServer_iff, onePerServer_of_unnamed⟩
  · rw [← map_id_entriesOf]
    exact Plugin.Registry.ids_foldl_register _
  · exact standsForLast_of_isLast ((Plugin.Registry.mem_foldl_register _ e).1 he)

/-- Two servers with one name in logs. -/
def namesakes : List Config.Server :=
  [{ address := "127.0.0.1:1", logId := some "py" },
    { address := "127.0.0.1:2", logId := some "py" }]

/-- Of two servers with one name in logs only one is registered. -/
theorem namesakes_not_onePerServer :
    ¬ OnePerServer (fun _ _ => (.value .late : Activity Unit Delivery)) namesakes
      (registerServers (fun _ _ => .value .late) namesakes .empty) := by
  rw [onePerServer_iff]
  decide

end VulnScan.LanguageServer
