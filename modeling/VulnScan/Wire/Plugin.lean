import VulnScan.Plugin.Definition
import VulnScan.Wire.Net

/-! # Definitions of plugins in JSON -/

set_option autoImplicit false

namespace VulnScan.Wire

open Json

/-- Roles of plugins. -/
def role : Codec Plugin.Role := .choice Plugin.Role.all Plugin.Role.name

/-- The operating systems a detector applies to. -/
def systemFilter : Codec Plugin.SystemFilter :=
  .record "TargetOperatingSystemClass"
    [.defaulted "vendor" (.list .string) [], .defaulted "os_family" (.list .string) [],
     .defaulted "min_accuracy" word 0]
    (fun f => (f.vendors, f.families, f.minAccuracy, ()))
    fun (vendors, families, minAccuracy, ()) => ⟨vendors, families, minAccuracy⟩

/-- Identities of plugins. -/
def info : Codec Plugin.Info :=
  .record "PluginInfo"
    [.required "plugin_type" role, .required "name" .string, .required "author" .string,
     .required "version" .string, .defaulted "description" .string ""]
    (fun i => (i.role, i.name, i.author, i.version, i.description, ()))
    fun (role, name, author, version, description, ()) =>
      ⟨role, name, author, version, description⟩

/-- Definitions of plugins. -/
def definition : Codec Plugin.Definition :=
  .record "PluginDefinition"
    [.required "plugin_type" role, .required "name" .string, .required "author" .string,
     .required "version" .string, .worded "description",
     .optional "target_service_names" (.list .string), .optional "target_software" .string,
     .defaulted "for_web_service" .bool false,
     .optional "target_operating_system_class" systemFilter,
     .defaulted "requires_callback_server" .bool false]
    (fun d => (d.role, d.name, d.author, d.version, d.description, d.serviceNames, d.software,
      d.forWeb, d.systems, d.needsCallback, ()))
    fun (role, name, author, version, description, serviceNames, software, forWeb, systems,
        needsCallback, ()) =>
      ⟨role, name, author, version, description, serviceNames, software, forWeb, systems,
        needsCallback⟩

/-- Plugins of a language server with their services. -/
def matched : Codec Plugin.Matched :=
  .record "MatchedPlugin"
    [.required "plugin" definition, .defaulted "services" (.list service) []]
    (fun m => (m.plugin, m.services, ())) fun (plugin, services, ()) => ⟨plugin, services⟩

end VulnScan.Wire
