import VulnScan.LanguageServer.Launch
import VulnScan.Proofs.LanguageServer.Registered
import VulnScan.Proofs.Text.Numerals
import VulnScan.Proofs.Text.Pieces

/-! # Where a launched server listens

A server that is launched is told the port of its address, and calls to it go below its base URL.
Both cut the address: the one takes anything before `://` for a scheme, and the other knows two
schemes only and puts one in front of everything else. So the two name the same port for an address
without a scheme and for one with a scheme that is known (`IsPlain`); for any other address they do
so only by chance (`portOf_baseUrl_eq_iff`).
-/

set_option autoImplicit false

namespace VulnScan.LanguageServer

open Execution (Activity)

/-! ## Ports in texts -/

/-- The mark between a scheme and what follows it. -/
def schemeMark : List Char := [':', '/', '/']

/-- The scheme that is put in front of an address, with its mark. -/
def assumed : List Char := ['h', 't', 't', 'p', ':', '/', '/']

/-- Up to its first slash, the text ends with a colon and the numeral of a port. -/
def NamesPort (a : List Char) (p : Net.Port) : Prop :=
  ∃ host numeral, '/' ∉ host ∧ Text.Writes numeral p ∧
    (a = host ++ ':' :: numeral ∨ ∃ path, a = host ++ ':' :: numeral ++ '/' :: path)

/-- What stands before the first slash. -/
def beforeSlash (a : List Char) : List Char := ((Text.splitFirst '/' a).map Prod.fst).getD a

/-- The port at the end of what stands before the first slash. -/
def portBeforeSlash (a : List Char) : Option Net.Port :=
  (Text.splitLast ':' (beforeSlash a)).bind fun p => Text.parseBelow 65536 p.2

/-- What follows the first mark, or else the whole text. -/
def afterMark (a : List Char) : List Char := ((Text.splitAtMark schemeMark a).map Prod.snd).getD a

/-- The port that an address names. -/
def portOf (address : String) : Option Net.Port := ({ address } : Config.Server).port

variable {σ : Type} {p : Net.Port} {a q rest scheme : List Char}

theorem portOf_eq (address : String) :
    portOf address = portBeforeSlash (afterMark (Text.dropEnd '/' address.toList)) := rfl

theorem beforeSlash_eq_iff :
    beforeSlash a = q ↔ '/' ∉ q ∧ (a = q ∨ ∃ path, a = q ++ '/' :: path) := by
  constructor
  · rintro rfl
    by_cases ha : '/' ∈ a
    · obtain ⟨b, path, rfl, hb⟩ := List.eq_append_cons_of_mem ha
      rw [beforeSlash, Text.splitFirst_append hb]
      exact ⟨hb, .inr ⟨path, rfl⟩⟩
    · rw [beforeSlash, Text.splitFirst_of_notMem ha]
      exact ⟨ha, .inl rfl⟩
  · rintro ⟨hq, rfl | ⟨path, rfl⟩⟩
    · rw [beforeSlash, Text.splitFirst_of_notMem hq]
      rfl
    · rw [beforeSlash, Text.splitFirst_append hq]
      rfl

/-- The port is read where it stands. -/
theorem portBeforeSlash_eq_some_iff : portBeforeSlash a = some p ↔ NamesPort a p := by
  rw [portBeforeSlash, Option.bind_eq_some_iff]
  constructor
  · rintro ⟨⟨host, numeral⟩, hlast, hport⟩
    obtain ⟨-, hq⟩ := Text.splitLast_eq_some_iff.1 hlast
    obtain ⟨hslash, ha⟩ := beforeSlash_eq_iff.1 hq
    exact ⟨host, numeral, fun h => hslash (List.mem_append_left _ h),
      Text.parseBelow_eq_some_iff.1 hport, ha⟩
  · rintro ⟨host, numeral, hhost, hwrites, ha⟩
    have hcolon : ':' ∉ numeral := hwrites.notMem (by decide) (by decide)
    have hslash : '/' ∉ numeral := hwrites.notMem (by decide) (by decide)
    have hq : beforeSlash a = host ++ ':' :: numeral :=
      beforeSlash_eq_iff.2 ⟨by simp [hhost, hslash], ha⟩
    exact ⟨(host, numeral), Text.splitLast_eq_some_iff.2 ⟨hcolon, hq⟩,
      Text.parseBelow_eq_some_iff.2 hwrites⟩

/-- In front of a mark a port is named only before a slash. -/
theorem namesPort_append_mark : NamesPort (scheme ++ schemeMark ++ rest) p ↔
    '/' ∈ scheme ∧ NamesPort scheme p := by
  rw [← portBeforeSlash_eq_some_iff, ← portBeforeSlash_eq_some_iff]
  by_cases hscheme : '/' ∈ scheme
  · obtain ⟨b, path, rfl, hb⟩ := List.eq_append_cons_of_mem hscheme
    have hscheme' : beforeSlash (b ++ '/' :: path) = b :=
      beforeSlash_eq_iff.2 ⟨hb, .inr ⟨path, rfl⟩⟩
    have hwhole : beforeSlash (b ++ '/' :: path ++ schemeMark ++ rest) = b :=
      beforeSlash_eq_iff.2 ⟨hb, .inr ⟨path ++ schemeMark ++ rest, by simp⟩⟩
    simp only [portBeforeSlash, hscheme', hwhole, hscheme, true_and]
  · -- the colon of the mark is the last one before a slash, and no numeral follows it
    have hwhole : beforeSlash (scheme ++ schemeMark ++ rest) = scheme ++ [':'] :=
      beforeSlash_eq_iff.2 ⟨by simp [hscheme], .inr ⟨'/' :: rest, by simp [schemeMark]⟩⟩
    have hlast : Text.splitLast ':' (scheme ++ [':']) = some (scheme, []) :=
      Text.splitLast_eq_some_iff.2 ⟨List.not_mem_nil, rfl⟩
    have hnone : Text.parseBelow 65536 [] = none :=
      Text.parseBelow_eq_none_iff.2 fun _ h => h.ne_nil rfl
    rw [portBeforeSlash, hwhole, hlast, Option.bind_some, hnone]
    simp [hscheme]

theorem afterMark_of_cutsAt (h : Text.CutsAt schemeMark a scheme rest) : afterMark a = rest := by
  rw [afterMark, Text.splitAtMark_eq_some_iff.2 h]
  rfl

theorem afterMark_of_not_infix (h : ¬ schemeMark <:+: a) : afterMark a = a := by
  rw [afterMark, Text.splitAtMark_eq_none_iff.2 h]
  rfl

theorem exists_cutsAt (h : schemeMark <:+: a) :
    ∃ scheme rest, Text.CutsAt schemeMark a scheme rest := by
  cases hcut : Text.splitAtMark schemeMark a with
  | none => exact absurd h (Text.splitAtMark_eq_none_iff.1 hcut)
  | some cut => exact ⟨cut.1, cut.2, Text.splitAtMark_eq_some_iff.1 hcut⟩

/-- The scheme that is put in front of a text is the one that is cut off again. -/
theorem afterMark_assumed (a : List Char) : afterMark (assumed ++ a) = a := by
  simp [afterMark, assumed, schemeMark, Text.splitAtMark, Text.after]

/-! ## The two ports -/

variable {s : Config.Server}

/-- The address has one of the schemes that are known, or none. -/
def IsPlain (s : Config.Server) : Prop :=
  (∃ known ∈ Config.Server.schemes, known <+: s.trimmedAddress) ∨ ¬ schemeMark <:+: s.trimmedAddress

theorem dropEnd_of_getLast? {c : Char} (h : a.getLast? ≠ some c) : Text.dropEnd c a = a := by
  rw [Text.dropEnd, List.reverse_eq_iff]
  cases hrev : a.reverse with
  | nil => rfl
  | cons b bs =>
    have hb : b ≠ c := by
      rintro rfl
      exact h (by rw [List.getLast?_eq_head?_reverse, hrev]; rfl)
    exact List.dropWhile_cons_of_neg (by simpa using hb)

theorem known_iff : (Config.Server.schemes.any fun known => (Text.after known a).isSome) = true ↔
    ∃ known ∈ Config.Server.schemes, known <+: a := by
  simp only [List.any_eq_true, Option.isSome_iff_exists, Text.after_eq_some_iff]
  exact exists_congr fun known => and_congr_right fun _ => exists_congr fun t => eq_comm

/-- With a scheme that is known the base URL is the address. -/
theorem toList_baseUrl_of_known (h : ∃ known ∈ Config.Server.schemes, known <+: s.trimmedAddress) :
    s.baseUrl.toList = s.trimmedAddress := by
  rw [Config.Server.baseUrl, if_pos (known_iff.2 h), String.toList_ofList]

theorem toList_baseUrl_of_unknown
    (h : ¬ ∃ known ∈ Config.Server.schemes, known <+: s.trimmedAddress) :
    s.baseUrl.toList = assumed ++ s.trimmedAddress := by
  rw [Config.Server.baseUrl, if_neg (mt known_iff.1 h), String.toList_ofList]
  rfl

theorem dropEnd_trimmedAddress (s : Config.Server) :
    Text.dropEnd '/' s.trimmedAddress = s.trimmedAddress :=
  dropEnd_of_getLast? (getLast?_dropEnd '/' s.address.toList)

theorem portOf_baseUrl_of_known (h : ∃ known ∈ Config.Server.schemes, known <+: s.trimmedAddress) :
    portOf s.baseUrl = portOf s.address := by
  rw [portOf_eq, toList_baseUrl_of_known h, dropEnd_trimmedAddress]
  rfl

/-- With any other scheme, or none, one is put in front. -/
theorem dropEnd_baseUrl_of_unknown
    (h : ¬ ∃ known ∈ Config.Server.schemes, known <+: s.trimmedAddress) :
    s.trimmedAddress = [] ∧ Text.dropEnd '/' s.baseUrl.toList = "http:".toList ∨
      Text.dropEnd '/' s.baseUrl.toList = assumed ++ s.trimmedAddress := by
  rw [toList_baseUrl_of_unknown h]
  have hlast := getLast?_dropEnd '/' s.address.toList
  rw [← Config.Server.trimmedAddress] at hlast
  cases ha : s.trimmedAddress with
  | nil => exact .inl ⟨rfl, by decide⟩
  | cons c cs =>
    have hbare : (assumed ++ c :: cs).getLast? ≠ some '/' := by
      rwa [List.getLast?_append_of_ne_nil _ (List.cons_ne_nil c cs), ← ha]
    exact .inr (dropEnd_of_getLast? hbare)

/-- The base URL then names the port that the address has in front of its first slash. -/
theorem portOf_baseUrl_of_unknown
    (h : ¬ ∃ known ∈ Config.Server.schemes, known <+: s.trimmedAddress) :
    portOf s.baseUrl = portBeforeSlash s.trimmedAddress := by
  rw [portOf_eq]
  rcases dropEnd_baseUrl_of_unknown h with ⟨hempty, hurl⟩ | hurl
  · rw [hurl, hempty]
    decide
  · rw [hurl, afterMark_assumed]

/-- A plain address names the port of its base URL. -/
theorem IsPlain.portOf_baseUrl (h : IsPlain s) : portOf s.baseUrl = portOf s.address := by
  by_cases hknown : ∃ known ∈ Config.Server.schemes, known <+: s.trimmedAddress
  · exact portOf_baseUrl_of_known hknown
  · rw [portOf_baseUrl_of_unknown hknown, portOf_eq, ← Config.Server.trimmedAddress,
      afterMark_of_not_infix (h.resolve_left hknown)]

/-- An address with another scheme names the port of what follows the scheme, and its base URL the
port of what stands in front of a slash within the scheme. -/
theorem ports_of_not_plain (h : ¬ IsPlain s)
    (hcut : Text.CutsAt schemeMark s.trimmedAddress scheme rest) (p : Net.Port) :
    (portOf s.address = some p ↔ NamesPort rest p) ∧
    (portOf s.baseUrl = some p ↔ '/' ∈ scheme ∧ NamesPort scheme p) := by
  constructor
  · rw [portOf_eq, ← Config.Server.trimmedAddress, afterMark_of_cutsAt hcut,
      portBeforeSlash_eq_some_iff]
  · rw [portOf_baseUrl_of_unknown fun hknown => h (.inl hknown), portBeforeSlash_eq_some_iff,
      hcut.whole, namesPort_append_mark]

/-- The address and its base URL name the same port if the address is plain, or if what follows its
scheme happens to name the port that stands in front of a slash within the scheme. -/
theorem portOf_baseUrl_eq_iff : portOf s.baseUrl = portOf s.address ↔ IsPlain s ∨
    ∀ scheme rest, Text.CutsAt schemeMark s.trimmedAddress scheme rest →
      ∀ p, NamesPort rest p ↔ '/' ∈ scheme ∧ NamesPort scheme p := by
  by_cases hplain : IsPlain s
  · exact iff_of_true hplain.portOf_baseUrl (.inl hplain)
  · rw [or_iff_right hplain]
    constructor
    · intro heq scheme rest hcut p
      obtain ⟨haddress, hbase⟩ := ports_of_not_plain hplain hcut p
      rw [← haddress, ← hbase, heq]
    · intro hsame
      obtain ⟨scheme, rest, hcut⟩ := exists_cutsAt (not_not.1 fun h => hplain (.inr h))
      refine Option.ext fun p => ?_
      obtain ⟨haddress, hbase⟩ := ports_of_not_plain hplain hcut p
      rw [haddress, hbase, hsame scheme rest hcut p]

/-- What follows a slash does not count. -/
theorem portBeforeSlash_append_slash (a path : List Char) :
    portBeforeSlash (a ++ '/' :: path) = portBeforeSlash a := by
  have hsame : beforeSlash (a ++ '/' :: path) = beforeSlash a := by
    obtain ⟨hslash, ha | ⟨path', ha⟩⟩ := beforeSlash_eq_iff.1 (Eq.refl (beforeSlash a))
    · exact beforeSlash_eq_iff.2 ⟨hslash, .inr ⟨path, by rw [← ha]⟩⟩
    · refine beforeSlash_eq_iff.2 ⟨hslash, .inr ⟨path' ++ '/' :: path, ?_⟩⟩
      calc a ++ '/' :: path = beforeSlash a ++ '/' :: path' ++ '/' :: path := by rw [← ha]
        _ = _ := List.append_assoc _ _ _
  rw [portBeforeSlash, hsame, portBeforeSlash]

/-- Without the slashes at its end the base URL still has a scheme, unless the address is empty. -/
theorem dropEnd_baseUrl_cases (s : Config.Server) :
    Text.dropEnd '/' s.baseUrl.toList = "http:".toList ∨
      schemeMark <:+: Text.dropEnd '/' s.baseUrl.toList := by
  by_cases hknown : ∃ known ∈ Config.Server.schemes, known <+: s.trimmedAddress
  · right
    rw [toList_baseUrl_of_known hknown, dropEnd_trimmedAddress]
    obtain ⟨known, hmem, hprefix⟩ := hknown
    have hmark : ∀ known ∈ Config.Server.schemes, schemeMark <:+: known := by decide
    exact (hmark known hmem).trans hprefix.isInfix
  · rcases dropEnd_baseUrl_of_unknown hknown with ⟨-, hurl⟩ | hurl
    · exact .inl hurl
    · exact .inr ⟨"http".toList, s.trimmedAddress, hurl.symm⟩

/-- The paths of requests. -/
def paths : List String := ["health_check", "list_plugins", "run"].map ("/plugin_service/" ++ ·)

theorem path_mem_paths (r : Request) : r.path ∈ paths := by
  have hoperation : r.operation ∈ ["health_check", "list_plugins", "run"] := by
    cases r <;> simp [Request.operation]
  exact List.mem_map_of_mem hoperation

/-- The messages to a server go to the port of its base URL. -/
theorem portOf_url (send : Post → Time.Span → Activity σ Delivery) (s : Config.Server)
    (r : Request) : portOf ((clientOf send s).post r).url = portOf s.baseUrl := by
  have hpaths : ∀ path ∈ paths, path.toList.head? = some '/' ∧ path.toList.getLast? ≠ some '/' ∧
      portBeforeSlash (afterMark ("http:".toList ++ path.toList)) = none := by decide +kernel
  obtain ⟨hslash, hbare, hnone⟩ := hpaths r.path (path_mem_paths r)
  obtain ⟨path, hpath⟩ : ∃ path, r.path.toList = '/' :: path := List.head?_eq_some_iff.1 hslash
  rw [hpath] at hbare hnone
  have hurl : ((clientOf send s).post r).url.toList
      = Text.dropEnd '/' s.baseUrl.toList ++ '/' :: path := by
    rw [← hpath]
    show (String.ofList (Text.dropEnd '/' s.baseUrl.toList) ++ r.path).toList = _
    rw [String.toList_append, String.toList_ofList]
  have hlast : (Text.dropEnd '/' s.baseUrl.toList ++ '/' :: path).getLast? ≠ some '/' := by
    rwa [List.getLast?_append_of_ne_nil _ (List.cons_ne_nil '/' path)]
  rw [portOf_eq, portOf_eq, hurl, dropEnd_of_getLast? hlast]
  rcases dropEnd_baseUrl_cases s with hempty | hmark
  · rw [hempty, hnone]
    decide
  · obtain ⟨scheme, rest, hcut⟩ := exists_cutsAt hmark
    rw [afterMark_of_cutsAt hcut, afterMark_of_cutsAt (hcut.append _),
      portBeforeSlash_append_slash]

/-! ## Launched servers -/

/-- A launched server is told the port that its address names, unless that is zero. -/
theorem port_mem_standardArguments : "--port=" ++ Text.decimal p ∈ Command.standardArguments s ↔
    portOf s.address = some p ∧ p ≠ 0 := by
  rw [Command.standardArguments, List.mem_append, List.mem_append]
  have hport : "--port=" ++ Text.decimal p ∈
      (((s.port.filter (· ≠ 0)).bind fun q => some q.val).map
        fun n => "--port=" ++ Text.decimal n).toList ↔ s.port = some p ∧ p ≠ 0 := by
    simp only [Option.mem_toList, Option.map_eq_some_iff, Option.bind_eq_some_iff,
      Option.filter_eq_some_iff, decide_eq_true_eq, String.append_right_inj]
    constructor
    · rintro ⟨n, ⟨q, ⟨hq, hne⟩, hval⟩, heq⟩
      obtain rfl : q = p := Fin.ext ((Option.some.inj hval).trans (decimal_injective heq))
      exact ⟨hq, hne⟩
    · intro h
      exact ⟨p, ⟨p, h, rfl⟩, rfl⟩
  have hid : "--port=" ++ Text.decimal p ∉
      ((s.logId.filter (· ≠ "")).map fun id => "--log_id=" ++ id).toList := by
    intro h
    obtain ⟨id, -, heq⟩ := Option.map_eq_some_iff.1 (Option.mem_toList.1 h)
    have hchars := congrArg String.toList heq
    simp at hchars
  have htimeout : "--port=" ++ Text.decimal p ∉
      if s.deadline = 0 then [] else ["--timeout_seconds=" ++ Text.decimal s.deadline] := by
    split
    · exact List.not_mem_nil
    · intro h
      have hchars := congrArg String.toList (List.mem_singleton.1 h)
      simp at hchars
  rw [or_iff_left htimeout, or_iff_left hid]
  exact hport

/-- The arguments of a launched server end with those that every launched server gets. -/
theorem standardArguments_suffix {c : Command} (h : Command.ofServer? s = some c) :
    Command.standardArguments s <:+ c.arguments := by
  obtain ⟨line, -, h⟩ := Option.bind_eq_some_iff.1 h
  split at h
  · cases h
  · next program arguments _ =>
    cases h
    exact List.suffix_append arguments _

/-- **Where a launched server listens.** A server that is launched is told the port that its
address names, unless that is zero, and all messages to it go to the port that its base URL names.
These two are the same if the address has no scheme or one of the two that are known, and otherwise
only by chance: then the server is told the port of what follows the scheme, and the messages go to
the port that is named in front of a slash within the scheme, which is none for any usual scheme. -/
theorem ports_compared (send : Post → Time.Span → Activity σ Delivery) (s : Config.Server) :
    (∀ c, Command.ofServer? s = some c → Command.standardArguments s <:+ c.arguments) ∧
    (∀ p : Net.Port, "--port=" ++ Text.decimal p ∈ Command.standardArguments s ↔
      portOf s.address = some p ∧ p ≠ 0) ∧
    (∀ r, portOf ((clientOf send s).post r).url = portOf s.baseUrl) ∧
    (portOf s.baseUrl = portOf s.address ↔ IsPlain s ∨
      ∀ scheme rest, Text.CutsAt schemeMark s.trimmedAddress scheme rest →
        ∀ p, NamesPort rest p ↔ '/' ∈ scheme ∧ NamesPort scheme p) ∧
    ∀ scheme rest, ¬ IsPlain s → Text.CutsAt schemeMark s.trimmedAddress scheme rest → ∀ p,
      (portOf s.address = some p ↔ NamesPort rest p) ∧
      (portOf s.baseUrl = some p ↔ '/' ∈ scheme ∧ NamesPort scheme p) :=
  ⟨fun _ => standardArguments_suffix, fun _ => port_mem_standardArguments, portOf_url send s,
    portOf_baseUrl_eq_iff, fun _ _ hplain hcut => ports_of_not_plain hplain hcut⟩

/-- A server whose address has its scheme in capital letters. -/
def capitalized : Config.Server := { address := "HTTP://127.0.0.1:8123" }

/-- The server is told the port 8123, and the URL of the messages to it names no port. -/
theorem capitalized_not_called : "--port=8123" ∈ Command.standardArguments capitalized ∧
    ¬ portOf capitalized.address = portOf capitalized.baseUrl := by
  decide +kernel

end VulnScan.LanguageServer
