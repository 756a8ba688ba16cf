import ClassDiagram.Ignore.Load
import Mathlib.Data.List.Basic
import Mathlib.Data.List.Induction

namespace ClassDiagram.IgnoreRule

/-- The last of the rules with a property is there and is not negated. -/
def Drops (speaks : IgnoreRule → Prop) (rules : List IgnoreRule) : Prop :=
  ∃ before rule after, rules = before ++ rule :: after ∧ speaks rule ∧ rule.negate = false ∧
    ∀ later ∈ after, ¬ speaks later

theorem not_drops_nil (speaks : IgnoreRule → Prop) : ¬ Drops speaks [] := by
  rintro ⟨before, rule, after, hrules, _⟩
  simp at hrules

/-- A rule at the end decides if it speaks of the path, and leaves the decision to the others if not. -/
theorem drops_concat_iff {speaks : IgnoreRule → Prop} {rules : List IgnoreRule} {rule : IgnoreRule} :
    Drops speaks (rules ++ [rule]) ↔
      (speaks rule ∧ rule.negate = false) ∨ (¬ speaks rule ∧ Drops speaks rules) := by
  constructor
  · rintro ⟨before, decider, after, hrules, hspeaks, hnegate, hlater⟩
    obtain rfl | ⟨init, last, rfl⟩ := List.eq_nil_or_concat after
    · obtain ⟨_, hlast⟩ := List.append_inj' hrules rfl
      cases hlast
      exact .inl ⟨hspeaks, hnegate⟩
    · have hcut : rules ++ [rule] = (before ++ decider :: init) ++ [last] := by simpa using hrules
      obtain ⟨rfl, hlast⟩ := List.append_inj' hcut rfl
      cases hlast
      refine .inr ⟨hlater rule (by simp), before, decider, init, rfl, hspeaks, hnegate, ?_⟩
      intro later hmem
      exact hlater later (by simp [hmem])
  · rintro (⟨hspeaks, hnegate⟩ | ⟨hsilent, before, decider, after, rfl, hspeaks, hnegate, hlater⟩)
    · exact ⟨rules, rule, [], rfl, hspeaks, hnegate, by simp⟩
    · refine ⟨before, decider, after ++ [rule], by simp, hspeaks, hnegate, ?_⟩
      intro later hmem
      obtain hmem | hmem := List.mem_append.mp hmem
      · exact hlater later hmem
      · rwa [List.mem_singleton.mp hmem]

/-- What is decided depends on which rules speak, and not on how it is said. -/
theorem drops_congr {speaks speaks' : IgnoreRule → Prop} {rules : List IgnoreRule}
    (hsame : ∀ rule ∈ rules, speaks rule ↔ speaks' rule) : Drops speaks rules ↔ Drops speaks' rules := by
  induction rules using List.reverseRecOn with
  | nil => simp [not_drops_nil]
  | append_singleton rules rule ih =>
    rw [drops_concat_iff, drops_concat_iff, hsame rule (by simp),
      ih fun other hother => hsame other (List.mem_append_left _ hother)]

/-- Rules of which none is negated drop what any of them speaks of, whichever is the last. -/
theorem drops_of_mem {speaks : IgnoreRule → Prop} {rules : List IgnoreRule} {rule : IgnoreRule}
    (hmem : rule ∈ rules) (hspeaks : speaks rule)
    (hplain : ∀ other ∈ rules, speaks other → other.negate = false) : Drops speaks rules := by
  induction rules using List.reverseRecOn with
  | nil => cases hmem
  | append_singleton rules last ih =>
    rw [drops_concat_iff]
    by_cases hlast : speaks last
    · exact .inl ⟨hlast, hplain last (by simp) hlast⟩
    · refine .inr ⟨hlast, ih ?_ fun other hother => hplain other (List.mem_append_left _ hother)⟩
      obtain hmem | hmem := List.mem_append.mp hmem
      · exact hmem
      · rw [List.mem_singleton.mp hmem] at hspeaks
        exact absurd hspeaks hlast

theorem Drops.exists_mem {speaks : IgnoreRule → Prop} {rules : List IgnoreRule} (hdrops : Drops speaks rules) :
    ∃ rule ∈ rules, speaks rule := by
  obtain ⟨before, rule, after, rfl, hspeaks, _⟩ := hdrops
  exact ⟨rule, by simp, hspeaks⟩

/-- The rules are gone through from the first to the last, and each that matches overrules those before. -/
theorem ignores_concat (rules : List IgnoreRule) (rule : IgnoreRule) (path : String) (isDirectory : Bool) :
    ignores (rules ++ [rule]) path isDirectory =
      if rule.accepts path isDirectory then !rule.negate else ignores rules path isDirectory := by
  rw [ignores, List.foldl_concat, ignores]

/-- A path is ignored if the last rule that matches it is not negated. This is the reading of the list that all
statements about rules go by. -/
theorem ignores_iff_drops {rules : List IgnoreRule} {path : String} {isDirectory : Bool} :
    ignores rules path isDirectory = true ↔ Drops (·.accepts path isDirectory = true) rules := by
  induction rules using List.reverseRecOn with
  | nil => simp [ignores, not_drops_nil]
  | append_singleton rules rule ih =>
    rw [ignores_concat, drops_concat_iff, ← ih]
    by_cases haccepts : rule.accepts path isDirectory = true
    · simp [haccepts]
    · simp [haccepts]

/-- Rules that are not negated, put behind others, add what they match and take nothing back. -/
theorem ignores_append {own more : List IgnoreRule} (hplain : ∀ rule ∈ more, rule.negate = false)
    (path : String) (isDirectory : Bool) :
    ignores (own ++ more) path isDirectory =
      (ignores own path isDirectory || more.any (·.accepts path isDirectory)) := by
  induction more using List.reverseRecOn with
  | nil => simp
  | append_singleton more rule ih =>
    have hrule : rule.negate = false := hplain rule (by simp)
    rw [← List.append_assoc, ignores_concat, ih fun other hother => hplain other (List.mem_append_left _ hother)]
    by_cases haccepts : rule.accepts path isDirectory = true
    · simp [haccepts, hrule]
    · simp [haccepts]

/-- A pattern gives a rule that is negated as asked for; an exclamation mark in the pattern itself does not
negate it. -/
theorem ofPattern?_negate {pattern : String} {negate : Bool} {rule : IgnoreRule}
    (hrule : ofPattern? pattern negate = some rule) : rule.negate = negate := by
  rw [ofPattern?] at hrule
  split at hrule
  · cases hrule
  · cases hrule
    rfl

/-- Each pattern gives its rule apart from the others, or none if it is blank. -/
theorem mem_ofPatterns {patterns : List String} {rule : IgnoreRule} :
    rule ∈ ofPatterns patterns ↔ ∃ pattern ∈ patterns, ofPattern? pattern false = some rule := by
  rw [ofPatterns, List.mem_filterMap]

/-- Exclude patterns never keep what something else ignores. Only lines of an ignore file can be negated. -/
theorem negate_of_mem_ofPatterns {patterns : List String} {rule : IgnoreRule}
    (hmem : rule ∈ ofPatterns patterns) : rule.negate = false := by
  obtain ⟨pattern, _, hrule⟩ := mem_ofPatterns.mp hmem
  exact ofPattern?_negate hrule

end ClassDiagram.IgnoreRule
