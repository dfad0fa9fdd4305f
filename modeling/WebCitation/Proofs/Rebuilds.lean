import WebCitation.Proofs.NormalForm

/-!
Steps that are rebuilt. A step is rebuilt from a definition of its own, and everything in it is checked again. Whatever
was asked for before, a rebuild changes only what is asked, and one that is refused changes nothing.
-/
namespace WebCitation

namespace Transformation

/-- What may be asked of a transformation. -/
inductive Rebuild where
  | config (text : String)
  | itemwise (flag : Bool)
deriving DecidableEq, Repr

def Rebuild.apply (t : Transformation) : Rebuild → Except ConfigError Transformation
  | config text => t.withConfig text
  | itemwise flag => t.withItemwise flag

/-- The transformation after a rebuild; the one before it if that is refused. -/
def rebuild (t : Transformation) (r : Rebuild) : Transformation := (r.apply t).toOption.getD t

theorem withItemwise_eq (t : Transformation) (flag : Bool) :
    t.withItemwise flag = .ok { t with itemwise := flag } := by
  rw [withItemwise, ofDefinition, toDefinition, TransformationRule.ofConfig_config]
  rfl

theorem ofDefinition_eq_map (type config : String) (flag : Option Bool) :
    ofDefinition ⟨type, config, flag⟩ = (TransformationRule.ofConfig type config).map fun rule =>
      ⟨rule, flag.getD rule.itemwiseDefault⟩ := rfl

theorem withConfig_eq_ok_iff {t u : Transformation} {config : String} :
    t.withConfig config = .ok u ↔
      TransformationRule.ofConfig t.rule.type config = .ok u.rule ∧ u.itemwise = t.itemwise := by
  rw [withConfig, toDefinition, ofDefinition_eq_map, map_eq_ok_iff]
  constructor
  · rintro ⟨rule, made, rfl⟩
    exact ⟨made, rfl⟩
  · rintro ⟨made, same⟩
    refine ⟨u.rule, made, ?_⟩
    rw [Option.getD_some, ← same]

theorem exists_withConfig_iff (t : Transformation) (config : String) (flag : Option Bool) :
    (∃ u, t.withConfig config = .ok u) ↔ ∃ made, ofDefinition ⟨t.rule.type, config, flag⟩ = .ok made := by
  rw [withConfig, toDefinition, ofDefinition_eq_map, ofDefinition_eq_map, exists_map_eq_ok_iff, exists_map_eq_ok_iff]

theorem ofConfig_of_ofDefinition {d : Definition.Transformation} {t : Transformation} (h : ofDefinition d = .ok t) :
    TransformationRule.ofConfig d.type d.config = .ok t.rule := by
  obtain ⟨rule, made, rfl⟩ := map_eq_ok_iff.1 h
  exact made

end Transformation

theorem TransformationRule.type_of_ofConfig {type config : String} {rule : TransformationRule}
    (h : ofConfig type config = .ok rule) : rule.type = type := by
  unfold ofConfig at h
  split at h
  · cases h
    rfl
  · cases h
    rfl
  · obtain ⟨locale, _, rfl⟩ := map_eq_ok_iff.1 h
    rfl
  · obtain ⟨ranges, _, rfl⟩ := map_eq_ok_iff.1 h
    rfl
  · cases h

namespace Transformation

def Rebuild.config? : Rebuild → Option String
  | config text => some text
  | itemwise _ => none

/-- One rebuild leaves the rule, or makes another of the same type from the config that is asked for. -/
theorem rebuild_cases (t : Transformation) (r : Rebuild) :
    (t.rebuild r).rule = t.rule ∨
      ∃ text, r = .config text ∧ TransformationRule.ofConfig t.rule.type text = .ok (t.rebuild r).rule := by
  cases r with
  | itemwise flag =>
    left
    rw [rebuild, Rebuild.apply, withItemwise_eq]
    rfl
  | config text =>
    cases made : t.withConfig text with
    | error e =>
      left
      rw [rebuild, Rebuild.apply, made]
      rfl
    | ok u =>
      right
      refine ⟨text, rfl, ?_⟩
      rw [rebuild, Rebuild.apply, made]
      exact (withConfig_eq_ok_iff.1 made).1

/-- However often a transformation is rebuilt, its rule is one that its first type makes of one of its configs. -/
theorem exists_ofConfig_foldl_rebuild {type : String} (rebuilds : List Rebuild) {t : Transformation}
    {configs : List String} (made : ∃ config ∈ configs, TransformationRule.ofConfig type config = .ok t.rule) :
    ∃ config ∈ configs ++ rebuilds.filterMap Rebuild.config?,
      TransformationRule.ofConfig type config = .ok (rebuilds.foldl rebuild t).rule := by
  induction rebuilds generalizing t configs with
  | nil => simpa using made
  | cons r rebuilds ih =>
    obtain ⟨config, member, made⟩ := made
    have step : ∃ config ∈ configs ++ r.config?.toList,
        TransformationRule.ofConfig type config = .ok (t.rebuild r).rule := by
      rcases rebuild_cases t r with same | ⟨text, rfl, remade⟩
      · rw [same]
        exact ⟨config, List.mem_append_left _ member, made⟩
      · rw [TransformationRule.type_of_ofConfig made] at remade
        exact ⟨text, List.mem_append_right _ List.mem_cons_self, remade⟩
    have rest := ih step
    rw [List.append_assoc] at rest
    cases r <;> exact rest

end Transformation

namespace Selection

/-- The configs that the selections of a type take. -/
def Takes : Selection → String → Prop
  | citoid _, config => ∃ key, CitoidKey.ofName config = .ok key
  | xpath _, config => ∃ expression, AcceptedExpression.ofText config = .ok expression

def rebuild (s : Selection) (config : String) : Selection := (s.withConfig config).toOption.getD s

theorem type_of_ofDefinition {d : Definition.Selection} {s : Selection} (h : ofDefinition d = .ok s) :
    s.type = d.type := by
  unfold ofDefinition at h
  split at h
  · rename_i named
    obtain ⟨key, _, rfl⟩ := map_eq_ok_iff.1 h
    exact named.symm
  · rename_i named
    obtain ⟨expression, _, rfl⟩ := map_eq_ok_iff.1 h
    exact named.symm
  · cases h

theorem config_of_ofDefinition {d : Definition.Selection} {s : Selection} (h : ofDefinition d = .ok s) :
    s.config = none ∨ s.config = some d.config ∧ s.Takes d.config := by
  rcases ofDefinition_cases h with ⟨key, rfl, made⟩ | ⟨expression, rfl, made⟩
  · cases key with
    | none => exact .inl rfl
    | some key =>
      have taken := (config_of_unlessBlank made).1
      exact .inr ⟨congrArg some (CitoidKey.name_of_ofName taken), key, taken⟩
  · cases expression with
    | none => exact .inl rfl
    | some expression =>
      have taken := (config_of_unlessBlank made).1
      exact .inr ⟨congrArg some (AcceptedExpression.text_of_ofText taken), expression, taken⟩

theorem exists_ofDefinition_foldl_rebuild {type : String} (asked : List String) {s : Selection}
    {configs : List String} (made : ∃ config ∈ configs, ofDefinition ⟨type, config⟩ = .ok s) :
    ∃ config ∈ configs ++ asked, ofDefinition ⟨type, config⟩ = .ok (asked.foldl rebuild s) := by
  induction asked generalizing s configs with
  | nil => simpa using made
  | cons next asked ih =>
    obtain ⟨config, member, made⟩ := made
    have step : ∃ config ∈ configs ++ [next], ofDefinition ⟨type, config⟩ = .ok (s.rebuild next) := by
      have same : s.type = type := type_of_ofDefinition made
      cases remade : s.withConfig next with
      | error e =>
        have kept : s.rebuild next = s := by
          rw [rebuild, remade]
          rfl
        rw [kept]
        exact ⟨config, List.mem_append_left _ member, made⟩
      | ok u =>
        have taken : s.rebuild next = u := by
          rw [rebuild, remade]
          rfl
        rw [taken, ← same]
        exact ⟨next, by simp, remade⟩
    have rest := ih step
    rwa [List.append_assoc] at rest

end Selection

/-- A transformation, however it was rebuilt, is of the type of its first definition and has the rule that this type makes
of one of the configs that were asked for, and its own definition makes it again. It takes every itemwise flag, and just
the configs of which its type makes a rule: then it has that rule, with the config that this one has, and the flag that
it had. A selection, however it was rebuilt, is of its first type and has no config or one of those that were asked for,
which its type takes, and its own definition makes it again. -/
theorem rebuilds_change_what_is_asked :
    (∀ d t, Transformation.ofDefinition d = .ok t → ∀ rebuilds : List Transformation.Rebuild,
      let u := rebuilds.foldl Transformation.rebuild t
      u.rule.type = d.type ∧
      (∃ config ∈ d.config :: rebuilds.filterMap Transformation.Rebuild.config?,
        TransformationRule.ofConfig d.type config = .ok u.rule) ∧
      (∀ flag, u.withItemwise flag = .ok { u with itemwise := flag }) ∧
      (∀ config flag, (∃ w, u.withConfig config = .ok w) ↔
        ∃ made, Transformation.ofDefinition ⟨u.rule.type, config, flag⟩ = .ok made) ∧
      (∀ config w, u.withConfig config = .ok w →
        w.rule.type = u.rule.type ∧ w.itemwise = u.itemwise ∧
        ∀ flag made, Transformation.ofDefinition ⟨u.rule.type, config, flag⟩ = .ok made → w.rule = made.rule) ∧
      Transformation.ofDefinition u.toDefinition = .ok u) ∧
    ∀ d s, Selection.ofDefinition d = .ok s → ∀ configs,
      let u := configs.foldl Selection.rebuild s
      u.type = d.type ∧
      (u.config = none ∨ ∃ config ∈ d.config :: configs, u.config = some config ∧ u.Takes config) ∧
      Selection.ofDefinition u.toDefinition = .ok u := by
  constructor
  · intro d t made rebuilds u
    have first := Transformation.ofConfig_of_ofDefinition made
    obtain ⟨config, asked, ruled⟩ :=
      Transformation.exists_ofConfig_foldl_rebuild rebuilds ⟨d.config, List.mem_singleton_self _, first⟩
    refine ⟨TransformationRule.type_of_ofConfig ruled, ⟨config, asked, ruled⟩, u.withItemwise_eq,
      u.exists_withConfig_iff, ?_, u.ofDefinition_toDefinition⟩
    intro config w rebuilt
    obtain ⟨remade, kept⟩ := Transformation.withConfig_eq_ok_iff.1 rebuilt
    refine ⟨TransformationRule.type_of_ofConfig remade, kept, ?_⟩
    intro flag fresh made
    exact Except.ok.inj (remade.symm.trans (Transformation.ofConfig_of_ofDefinition made))
  · intro d s made configs u
    obtain ⟨config, asked, remade⟩ :=
      Selection.exists_ofDefinition_foldl_rebuild configs ⟨d.config, List.mem_singleton_self _, made⟩
    have named := Selection.type_of_ofDefinition remade
    have again : Selection.ofDefinition u.toDefinition = .ok u := by
      rw [u.ofDefinition_toDefinition, Selection.reread_eq_self_iff.2 (Selection.filled_of_ofDefinition remade)]
    refine ⟨named, ?_, again⟩
    rcases Selection.config_of_ofDefinition remade with unset | ⟨same, taken⟩
    · exact .inl unset
    · exact .inr ⟨config, asked, same, taken⟩

namespace RefusedRebuilds

def rebuilds : List Transformation.Rebuild := [.config "x", .config "1:", .itemwise true]

def range : Transformation := ⟨.range ⟨"0", [⟨0, .single⟩], by decide⟩, false⟩

def rebuilt : Transformation := ⟨.range ⟨"1:", [⟨1, .last⟩], by decide⟩, true⟩

def keys : List String := ["volume", "vol"]

def rebuiltKey : Selection := .citoid (some ⟨"volume", by decide⟩)

theorem range_and_key_after_refusals :
    rebuilds.foldl Transformation.rebuild range = rebuilt ∧ rebuilt.rule.type = "range" ∧
      rebuilt.withItemwise false = .ok { rebuilt with itemwise := false } ∧
      (¬ ∃ w, rebuilt.withConfig "x" = .ok w) ∧
      keys.foldl Selection.rebuild (.citoid none) = rebuiltKey ∧ rebuiltKey.type = "citoid" ∧
      Selection.ofDefinition rebuiltKey.toDefinition = .ok rebuiltKey := by
  have made : Transformation.ofDefinition ⟨"range", "0", none⟩ = .ok range := rfl
  have run : rebuilds.foldl Transformation.rebuild range = rebuilt := rfl
  have unset : Selection.ofDefinition ⟨"citoid", " "⟩ = .ok (.citoid none) := rfl
  have runKey : keys.foldl Selection.rebuild (.citoid none) = rebuiltKey := rfl
  obtain ⟨transformations, selections⟩ := rebuilds_change_what_is_asked
  obtain ⟨type, -, itemwise, accepts, -, -⟩ := transformations _ _ made rebuilds
  obtain ⟨keyType, -, again⟩ := selections _ _ unset keys
  rw [run] at type itemwise accepts
  rw [runKey] at keyType again
  refine ⟨run, type, itemwise false, ?_, runKey, keyType, again⟩
  rw [accepts "x" none]
  rintro ⟨w, h⟩
  cases h

end RefusedRebuilds
end WebCitation
