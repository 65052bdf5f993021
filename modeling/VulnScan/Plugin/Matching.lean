import VulnScan.Plugin.Definition

/-! # Which services a plugin applies to

A plugin without filters applies to every service. A plugin with filters applies to a service
whose name or whose software it names, and to web services if it is made for them; a service
without a name, or without known software, passes every filter on it. A plugin may also be limited
to operating systems, and then applies to nothing unless one of the guesses at the system of the
host fits.
-/

set_option autoImplicit false

namespace VulnScan.Plugin

/-- Whether a guess at the operating system fits a filter. -/
def SystemFilter.admits (f : SystemFilter) (g : Net.SystemGuess) : Bool :=
  (f.minAccuracy = 0 || f.minAccuracy ≤ g.accuracy) &&
    (f.vendors.contains g.vendor || f.families.contains g.family)

namespace Definition

/-- Whether the name of the service passes: one of the names that the plugin wants, in whatever
case, no name at all, or that of a web service. -/
def admitsName (d : Definition) (s : Net.Service) : Bool :=
  (match d.serviceNames with
    | some names => s.name = "" || names.any fun n => Text.sameName n s.name
    | none => false) ||
  (d.forWeb && s.isWeb)

/-- Whether the software behind the service passes. -/
def admitsSoftware (d : Definition) (s : Net.Service) : Bool :=
  match d.software with
  | some wanted => s.softwareName = "" || Text.sameName wanted s.softwareName
  | none => false

/-- Whether the operating system of the host passes. -/
def admitsHost (d : Definition) (h : Net.Host) : Bool :=
  match d.systems with
  | some f => h.systems.any f.admits
  | none => true

/-- The services of a survey that a plugin applies to. -/
def servicesIn (d : Definition) (survey : Net.Survey) : List Net.Service :=
  if d.admitsHost survey.host then
    if d.hasServiceFilters then
      survey.services.filter fun s => d.admitsName s || d.admitsSoftware s
    else survey.services
  else []

end Definition

end VulnScan.Plugin
