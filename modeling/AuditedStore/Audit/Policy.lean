import AuditedStore.Assoc
import AuditedStore.Numeral
import AuditedStore.Text

/-!
# Audit policies

Settings are texts under names.  A name that ends in `.Size` sets how many snapshots the
trails of an audit collection keep; another name sets whether an operation is audited.
Texts that are not a number or a Boolean leave the default.  A policy has read the settings
once; `auditFlag` and `auditCap` read one of them each time.
-/

namespace AuditedStore

/-- What the name of a setting for a number of snapshots ends in. -/
def capSuffix : String := ".Size"

/-- Reads a number of snapshots. -/
def readCap? (text : String) : Option Int64 := Numeral.readInt64? (Text.trim text)

/-- Whether the operation under a name is audited. -/
def auditFlag (byDefault : Bool) (settings : Assoc String) (key : String) : Bool :=
  ((Assoc.get? key settings).bind Text.readBool?).getD byDefault

/-- The number of snapshots set for an audit collection. -/
def auditCap (settings : Assoc String) (collection : String) (default : Int64) : Int64 :=
  ((Assoc.get? (collection ++ capSuffix) settings).bind readCap?).getD default

/-- Settings that have been read. -/
structure AuditPolicy where
  auditByDefault : Bool
  defaultCap : Int64
  flags : Assoc Bool
  caps : Assoc Int64

namespace AuditPolicy

/-- Notes one setting. -/
def addSetting (p : AuditPolicy) (key text : String) : AuditPolicy :=
  match Text.dropEnd? key capSuffix with
  | some collection =>
    match readCap? text with
    | some cap => { p with caps := Assoc.insert collection cap p.caps }
    | none => p
  | none =>
    match Text.readBool? text with
    | some flag => { p with flags := Assoc.insert key flag p.flags }
    | none => p

/-- Reads settings. -/
def ofSettings (auditByDefault : Bool) (defaultCap : Int64) (settings : Assoc String) :
    AuditPolicy :=
  settings.foldl (fun p e => p.addSetting e.1 e.2) ⟨auditByDefault, defaultCap, [], []⟩

/-- Whether the operation under a name is audited. -/
def shouldAudit (p : AuditPolicy) (key : String) : Bool :=
  (Assoc.get? key p.flags).getD p.auditByDefault

/-- The number of snapshots set for an audit collection. -/
def capSize (p : AuditPolicy) (collection : String) : Int64 :=
  (Assoc.get? collection p.caps).getD p.defaultCap

/-- How many snapshots are kept for each record; zero means all. -/
def retained (p : AuditPolicy) (collection : String) : Nat := (p.capSize collection).toInt.toNat

end AuditPolicy

end AuditedStore
