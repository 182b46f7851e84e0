import SiteDesk.Json.Basic
import SiteDesk.Toml.Document

/-!
Settings of the desk, and their form as a TOML document in which every key may be absent and other
keys are ignored. A configuration is valid if the schema cache holds something, a contact list shows
something, and the greatest length of a list is not below the usual one.
-/
namespace SiteDesk

structure Config where
  schemaCacheCapacity : Nat := 1024
  schemaCacheTtlSecs : Nat := 0
  rejectUnknownTags : Bool := false
  contactListDefaultLimit : Nat := 50
  contactListMaxLimit : Nat := 200
  deriving DecidableEq, Repr

namespace Config

inductive Invalid where
  | noCapacity
  | noDefaultLimit
  | maxBelowDefault (max default : Nat)
  deriving DecidableEq, Repr

def Invalid.reason : Invalid → String
  | .noCapacity => "schema_cache_capacity must be positive"
  | .noDefaultLimit => "contact_list_default_limit must be positive"
  | .maxBelowDefault max default =>
    s!"contact_list_max_limit ({max}) is below contact_list_default_limit ({default})"

def Invalid.message (error : Invalid) : String :=
  s!"invalid config value: {error.reason}"

def validate (config : Config) : Except Invalid Unit :=
  if config.schemaCacheCapacity = 0 then .error .noCapacity
  else if config.contactListDefaultLimit = 0 then .error .noDefaultLimit
  else if config.contactListMaxLimit < config.contactListDefaultLimit then
    .error (.maxBelowDefault config.contactListMaxLimit config.contactListDefaultLimit)
  else .ok ()

/-- The number of contacts listed when some number, or none, is asked for; zero counts as none. -/
def contactLimit (config : Config) : Option Nat → Nat
  | none | some 0 => config.contactListDefaultLimit
  | some n => min n config.contactListMaxLimit

def toJson (config : Config) : Json :=
  .object [("contact_list_default_limit", .ofNat config.contactListDefaultLimit),
    ("contact_list_max_limit", .ofNat config.contactListMaxLimit),
    ("reject_unknown_tags", .bool config.rejectUnknownTags),
    ("schema_cache_capacity", .ofNat config.schemaCacheCapacity),
    ("schema_cache_ttl_secs", .ofNat config.schemaCacheTtlSecs)]

/-- Why a text is no configuration: it is not TOML or has a value of the wrong type, or its values
do not fit together. -/
inductive ReadError where
  | malformed
  | invalid (reason : Invalid)
  deriving DecidableEq, Repr

def natOr (default : Nat) : Option Toml.Value → Option Nat
  | none => some default
  | some (.integer (.ofNat n)) => some n
  | some _ => none

def flagOr (default : Bool) : Option Toml.Value → Option Bool
  | none => some default
  | some (.boolean b) => some b
  | some _ => none

def ofEntries? (entries : Toml.Entries) : Option Config := do
  let base : Config := {}
  return {
    schemaCacheCapacity :=
      ← natOr base.schemaCacheCapacity (Keyed.get? "schema_cache_capacity" entries)
    schemaCacheTtlSecs :=
      ← natOr base.schemaCacheTtlSecs (Keyed.get? "schema_cache_ttl_secs" entries)
    rejectUnknownTags :=
      ← flagOr base.rejectUnknownTags (Keyed.get? "reject_unknown_tags" entries)
    contactListDefaultLimit :=
      ← natOr base.contactListDefaultLimit (Keyed.get? "contact_list_default_limit" entries)
    contactListMaxLimit :=
      ← natOr base.contactListMaxLimit (Keyed.get? "contact_list_max_limit" entries) }

def parse (text : String) : Except ReadError Config :=
  match (Toml.parse text).bind ofEntries? with
  | none => .error .malformed
  | some config =>
    match config.validate with
    | .ok () => .ok config
    | .error reason => .error (.invalid reason)

end Config

end SiteDesk
