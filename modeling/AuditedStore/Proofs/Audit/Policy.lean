import AuditedStore.Audit.Policy
import AuditedStore.Proofs.Assoc
import AuditedStore.Proofs.Text
import Mathlib.Data.List.Nodup

/-!
# Policies against their settings

A policy reads all settings once.  The caps that it answers are those of the settings, and so
are the flags, but for one kind of name: one that ends as the names of caps do.  A flag that is
set under such a name is taken for a cap when the policy is made, and keeps its default; the
settings themselves still answer it.
-/

namespace AuditedStore.AuditPolicy

/-- The flag that a policy reads from a setting; from one whose name is that of a cap, none. -/
def flagOf? (key text : String) : Option Bool :=
  if Text.endsWith key capSuffix then none else Text.readBool? text

variable {settings : Assoc String}

/-! ### One setting -/

/-- A setting changes the flag under its own name alone. -/
theorem get?_flags_addSetting (p : AuditPolicy) (name key text : String) :
  Assoc.get? name (p.addSetting key text).flags
    = if key = name then (flagOf? key text).or (Assoc.get? name p.flags)
      else Assoc.get? name p.flags
  := by
  rw [addSetting, flagOf?]
  cases hcap : Text.dropEnd? key capSuffix with
  | some collection =>
      rw [if_pos (Text.endsWith_iff.mpr ⟨collection, Text.dropEnd?_eq_some_iff.mp hcap⟩),
        Option.none_or, ite_self]
      cases readCap? text with
      | some cap => rfl
      | none => rfl
  | none =>
      rw [Text.dropEnd?_eq_none_iff.mp hcap, if_neg Bool.false_ne_true]
      cases Text.readBool? text with
      | some flag =>
          rw [Assoc.get?_insert, Option.some_or]
          exact if_congr eq_comm rfl rfl
      | none => rw [Option.none_or, ite_self]

/-- A setting changes the cap of the collection that its name is for alone. -/
theorem get?_caps_addSetting (p : AuditPolicy) (collection key text : String) :
  Assoc.get? collection (p.addSetting key text).caps
    = if key = collection ++ capSuffix then (readCap? text).or (Assoc.get? collection p.caps)
      else Assoc.get? collection p.caps
  := by
  rw [addSetting]
  cases hcap : Text.dropEnd? key capSuffix with
  | some named =>
      have hname : key = collection ++ capSuffix ↔ collection = named := by
        rw [← Text.dropEnd?_eq_some_iff, hcap, Option.some.injEq, eq_comm]
      rw [if_congr hname rfl rfl]
      cases readCap? text with
      | some cap => rw [Assoc.get?_insert, Option.some_or]
      | none => rw [Option.none_or, ite_self]
  | none =>
      have hname : key ≠ collection ++ capSuffix := by
        rintro rfl
        rw [Text.dropEnd?_append] at hcap
        cases hcap
      rw [if_neg hname]
      cases Text.readBool? text with
      | some flag => rfl
      | none => rfl

theorem defaults_addSetting (p : AuditPolicy) (key text : String) :
  (p.addSetting key text).auditByDefault = p.auditByDefault
    ∧ (p.addSetting key text).defaultCap = p.defaultCap
  := by
  rw [addSetting]
  split
  · split
    · exact ⟨rfl, rfl⟩
    · exact ⟨rfl, rfl⟩
  · split
    · exact ⟨rfl, rfl⟩
    · exact ⟨rfl, rfl⟩

/-! ### All settings -/

section Settings

variable {byDefault : Bool} {cap : Int64}

/-- Settings change neither default. -/
theorem defaults_ofSettings (byDefault : Bool) (cap : Int64) (settings : Assoc String) :
  (ofSettings byDefault cap settings).auditByDefault = byDefault
    ∧ (ofSettings byDefault cap settings).defaultCap = cap
  := by
  have hfold : ∀ p : AuditPolicy,
      (settings.foldl (fun p e => p.addSetting e.1 e.2) p).auditByDefault = p.auditByDefault
      ∧ (settings.foldl (fun p e => p.addSetting e.1 e.2) p).defaultCap = p.defaultCap := by
    induction settings with
    | nil => exact fun _ => ⟨rfl, rfl⟩
    | cons e settings ih =>
        intro p
        obtain ⟨hflag, hcap⟩ := p.defaults_addSetting e.1 e.2
        obtain ⟨hflag', hcap'⟩ := ih (p.addSetting e.1 e.2)
        exact ⟨hflag'.trans hflag, hcap'.trans hcap⟩
  apply hfold

/-- A policy answers the flag that it has read from the setting under a name. -/
theorem shouldAudit_ofSettings (h : (Assoc.keys settings).Nodup) (name : String) :
  (ofSettings byDefault cap settings).shouldAudit name
    = ((Assoc.get? name settings).bind (flagOf? name)).getD byDefault
  := by
  have hread := Assoc.foldl_eq_of_step (fun p : AuditPolicy => Assoc.get? name p.flags)
    (fun e => flagOf? e.1 e.2) (fun p e => p.get?_flags_addSetting name e.1 e.2) h
    ⟨byDefault, cap, [], []⟩
  rw [shouldAudit, (defaults_ofSettings byDefault cap settings).1, ofSettings, hread]
  exact congrArg (Option.getD · byDefault) Option.or_none

/-- A policy answers the cap that the settings have for a collection. -/
theorem capSize_ofSettings (h : (Assoc.keys settings).Nodup) (collection : String) :
  (ofSettings byDefault cap settings).capSize collection = auditCap settings collection cap
  := by
  have hread := Assoc.foldl_eq_of_step (fun p : AuditPolicy => Assoc.get? collection p.caps)
    (fun e => readCap? e.2) (fun p e => p.get?_caps_addSetting collection e.1 e.2) h
    ⟨byDefault, cap, [], []⟩
  rw [capSize, (defaults_ofSettings byDefault cap settings).2, ofSettings, hread, auditCap]
  exact congrArg (Option.getD · cap) Option.or_none

/-- Under a name that is not that of a cap, a policy reads the flag that the settings have. -/
theorem getD_bind_flagOf? (byDefault : Bool) (settings : Assoc String) (name : String) :
  ((Assoc.get? name settings).bind (flagOf? name)).getD byDefault
    = if Text.endsWith name capSuffix then byDefault else auditFlag byDefault settings name
  := by
  rw [auditFlag]
  cases Assoc.get? name settings with
  | none => exact (ite_self byDefault).symm
  | some text =>
      rw [Option.bind_some, Option.bind_some, flagOf?]
      split
      · rfl
      · rfl

/-- The settings have the default under a name exactly if they do not set the other flag. -/
theorem auditFlag_eq_default_iff (byDefault : Bool) (settings : Assoc String) (name : String) :
  auditFlag byDefault settings name = byDefault
    ↔ (Assoc.get? name settings).bind Text.readBool? ≠ some (!byDefault)
  := by
  rw [auditFlag]
  cases (Assoc.get? name settings).bind Text.readBool? with
  | none => simp
  | some flag => cases flag <;> cases byDefault <;> simp

/-- Whatever the settings are, a policy that has read them answers the same caps, and the same
flags under all names that are not those of caps.  Under the name of a cap it always answers
the default flag, so that it agrees with the settings exactly if they do not set the other one. -/
theorem ofSettings_agrees (byDefault : Bool) (cap : Int64) {settings : Assoc String}
    (h : (Assoc.keys settings).Nodup) (name : String) :
  (ofSettings byDefault cap settings).capSize name = auditCap settings name cap
    ∧ (ofSettings byDefault cap settings).shouldAudit name
      = (if Text.endsWith name capSuffix then byDefault else auditFlag byDefault settings name)
    ∧ ((ofSettings byDefault cap settings).shouldAudit name = auditFlag byDefault settings name
      ↔ Text.endsWith name capSuffix = true →
          (Assoc.get? name settings).bind Text.readBool? ≠ some (!byDefault))
  := by
  have hflag : (ofSettings byDefault cap settings).shouldAudit name
      = if Text.endsWith name capSuffix then byDefault else auditFlag byDefault settings name := by
    rw [shouldAudit_ofSettings h, getD_bind_flagOf?]
  refine ⟨capSize_ofSettings h name, hflag, ?_⟩
  rw [hflag, ← auditFlag_eq_default_iff]
  split
  · next hcap => simp [hcap, eq_comm]
  · next hcap => simp [hcap]

end Settings

/-- Saving cards is not audited, their trails keep three snapshots, and a text that is not a
Boolean leaves updates as they are by default. -/
theorem ofSettings_agrees_cards :
  let settings : Assoc String :=
    [("cardsAudit.Size", " 3 "), ("cards.Update", "maybe"), ("cards.Save", "False")]
  (ofSettings true 100 settings).shouldAudit "cards.Save" = false
    ∧ (ofSettings true 100 settings).shouldAudit "cards.Update" = true
    ∧ (ofSettings true 100 settings).capSize "cardsAudit" = 3
  := by
  intro settings
  have hnames : (Assoc.keys settings).Nodup := by decide
  obtain ⟨-, hsave, -⟩ := ofSettings_agrees true 100 hnames "cards.Save"
  obtain ⟨-, hupdate, -⟩ := ofSettings_agrees true 100 hnames "cards.Update"
  obtain ⟨hcap, -, -⟩ := ofSettings_agrees true 100 hnames "cardsAudit"
  rw [hsave, hupdate, hcap]
  decide +kernel

/-- A flag under the name of a cap is answered by the settings, but not by the policy. -/
theorem ofSettings_flag_under_cap :
  let settings : Assoc String := [("cards.Size", "false")]
  auditFlag true settings "cards.Size" = false
    ∧ (ofSettings true 100 settings).shouldAudit "cards.Size" = true
  := by decide +kernel

end AuditedStore.AuditPolicy
