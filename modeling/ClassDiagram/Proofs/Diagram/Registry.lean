import ClassDiagram.Diagram.Renderer
import Mathlib.Data.List.Nodup

namespace ClassDiagram

/-- What comes of a factory that is given options; `key` is the name it was found by. -/
def Factory.result (f : Factory) (key : String) (given : Options) : Except RendererError Renderer :=
  match f.make given with
  | none => .error (.notARenderer key)
  | some renderer => .ok renderer

/-- The options that a factory with a known signature takes are those that it has a parameter for, unless it
takes all. A positional parameter takes no option, even one of its name. -/
theorem Acceptance.select_ofParameters {parameters : List Factory.Parameter}
    (hnone : ∀ p ∈ parameters, p.kind ≠ .allNamed) (options : Options) :
    (ofParameters (some parameters)).select options =
      options.filter fun option => parameters.any fun p => p.takesOption && p.name == option.1 := by
  have hany : ¬ parameters.any (·.kind = .allNamed) = true := by
    simpa using hnone
  rw [ofParameters, if_neg hany, select]
  refine List.filter_congr fun option _ => ?_
  rw [Bool.eq_iff_iff]
  simp only [List.contains_iff_mem, List.mem_map, List.mem_filter, List.any_eq_true, Bool.and_eq_true, beq_iff_eq,
    and_assoc]

namespace Renderer

variable {plugins : List Plugin} {requested : Option String}

/-- The list of names is collected from the built-in name on, one plugin after the other, without a look at what
the plugins hold. -/
theorem available_eq (plugins : List Plugin) :
    available plugins = (plugins.map fun p => Text.lower p.name).foldl addName [builtinName] := by
  rw [available, List.foldl_map]

/-- Adding a name that is listed changes nothing, so either way exactly this name joins those that were there. -/
theorem mem_addName {names : List String} {name other : String} :
    other ∈ addName names name ↔ other ∈ names ∨ other = name := by
  rw [addName]
  split
  · next hknown =>
    have hmem : name ∈ names := List.contains_iff_mem.mp hknown
    constructor
    · exact .inl
    · rintro (hother | rfl)
      · exact hother
      · exact hmem
  · simp

theorem nodup_addName {names : List String} (hnodup : names.Nodup) (name : String) : (addName names name).Nodup := by
  rw [addName]
  split
  · exact hnodup
  · next hfresh =>
    rw [List.contains_iff_mem] at hfresh
    rw [← List.concat_eq_append, List.nodup_concat]
    exact ⟨hfresh, hnodup⟩

/-- Names are added behind the others, which keep their places; so the built-in name stays the first. -/
theorem prefix_addName (names : List String) (name : String) : names <+: addName names name := by
  rw [addName]
  split
  · exact List.prefix_refl names
  · exact List.prefix_append names [name]

theorem mem_foldl_addName {names more : List String} {name : String} :
    name ∈ more.foldl addName names ↔ name ∈ names ∨ name ∈ more := by
  induction more generalizing names with
  | nil => simp
  | cons first more ih => rw [List.foldl_cons, ih, mem_addName, List.mem_cons, or_assoc]

theorem nodup_foldl_addName {names : List String} (hnodup : names.Nodup) (more : List String) :
    (more.foldl addName names).Nodup := by
  induction more generalizing names with
  | nil => exact hnodup
  | cons first more ih => exact ih (nodup_addName hnodup first)

theorem prefix_foldl_addName (names more : List String) : names <+: more.foldl addName names := by
  induction more generalizing names with
  | nil => exact List.prefix_refl names
  | cons first more ih => exact (prefix_addName names first).trans (ih (addName names first))

/-- The names that are listed: the built-in one and those of the plugins, in small letters. Plugins that cannot
be loaded are listed too, as the list is made without loading any. -/
theorem mem_available {name : String} :
    name ∈ available plugins ↔ name = builtinName ∨ ∃ p ∈ plugins, Text.lower p.name = name := by
  rw [available_eq, mem_foldl_addName, List.mem_singleton, List.mem_map]

/-- Names that differ in case alone are listed once, and a plugin with the name of the built-in renderer adds
nothing. -/
theorem nodup_available (plugins : List Plugin) : (available plugins).Nodup := by
  rw [available_eq]
  exact nodup_foldl_addName (List.nodup_singleton builtinName) _

/-- The built-in name is the first, whatever plugins there are: it is listed before any of them and names are
only added behind it. -/
theorem head?_available (plugins : List Plugin) : (available plugins).head? = some builtinName := by
  rw [available_eq]
  obtain ⟨rest, hrest⟩ := prefix_foldl_addName [builtinName] (plugins.map fun p => Text.lower p.name)
  rw [← hrest]
  rfl

/-- No name and an empty name both ask for the built-in renderer, so settings without an output type can be
drawn. -/
theorem key_of_unnamed (hunnamed : requested.getD "" = "") : key requested = builtinName := by
  rw [key, hunnamed]
  decide +kernel

/-- Any other name is looked up in small letters, as the plugins' names are listed. -/
theorem key_of_named {name : String} (hname : name ≠ "") : key (some name) = Text.lower name := by
  rw [key, Option.getD_some, if_neg hname]

/-- The first plugin that registers a name. -/
def IsFirst (plugins : List Plugin) (key : String) (p : Plugin) : Prop :=
  ∃ before after, plugins = before ++ p :: after ∧ Text.lower p.name = key ∧
    ∀ q ∈ before, Text.lower q.name ≠ key

/-- The search stops at the first plugin of the name; those behind it are never looked at. -/
theorem find?_eq_some_of_isFirst {key : String} {p : Plugin} (hfirst : IsFirst plugins key p) :
    plugins.find? (fun q => Text.lower q.name == key) = some p := by
  obtain ⟨before, after, hplugins, hname, hbefore⟩ := hfirst
  rw [List.find?_eq_some_iff_append]
  exact ⟨by simpa using hname, before, after, hplugins, by simpa using hbefore⟩

/-- Where some plugin registers a name, one of them is the first to do so. -/
theorem exists_isFirst {key : String} (hkey : ∃ p ∈ plugins, Text.lower p.name = key) :
    ∃ p, IsFirst plugins key p := by
  obtain ⟨q, hq, hname⟩ := hkey
  have hfound : (plugins.find? fun q => Text.lower q.name == key).isSome := by
    rw [List.find?_isSome]
    exact ⟨q, hq, by simpa using hname⟩
  obtain ⟨p, hp⟩ := Option.isSome_iff_exists.mp hfound
  obtain ⟨hmatches, before, after, hplugins, hbefore⟩ := List.find?_eq_some_iff_append.mp hp
  exact ⟨p, before, after, hplugins, by simpa using hmatches, by simpa using hbefore⟩

theorem ofName_of_factory {f : Factory} (hfactory : factory plugins requested = .ok f) (options : Options) :
    ofName plugins requested options = f.result (key requested) (f.accepts.select options) := by
  rw [ofName, hfactory]
  rfl

theorem ofName_of_factory_error {error : RendererError} (hfactory : factory plugins requested = .error error)
    (options : Options) : ofName plugins requested options = .error error := by
  rw [ofName, hfactory]
  rfl

/-- The built-in name leads to the built-in renderer before any plugin is looked at, so none can take its place. -/
theorem factory_of_builtin (hkey : key requested = builtinName) :
    factory plugins requested = .ok plantUmlFactory := by
  rw [factory, if_pos hkey]

/-- Any other name leads to what its first plugin holds. If this cannot be loaded the error names the plugin as
it registered itself and not as it was asked for. -/
theorem factory_of_isFirst (hkey : key requested ≠ builtinName) {p : Plugin}
    (hfirst : IsFirst plugins (key requested) p) :
    factory plugins requested = p.factory.mapError (.pluginFailed p.name) := by
  rw [factory, if_neg hkey, find?_eq_some_of_isFirst hfirst]

/-- A name that is not listed is refused, and the error repeats the name as it was asked for along with all
those that are listed. -/
theorem factory_of_not_mem (hkey : key requested ∉ available plugins) :
    factory plugins requested = .error (.unknownOutputType (requested.getD "") (available plugins)) := by
  rw [mem_available, not_or] at hkey
  have hnone : plugins.find? (fun p => Text.lower p.name == key requested) = none := by
    rw [List.find?_eq_none]
    intro p hp hname
    exact hkey.2 ⟨p, hp, by simpa using hname⟩
  rw [factory, if_neg hkey.1, hnone]

/-- A name that is listed leads to a factory or to a plugin that cannot be loaded. In neither case is it refused
as unknown. -/
theorem factory_of_mem (hkey : key requested ∈ available plugins) :
    (∃ f, factory plugins requested = .ok f) ∨
      ∃ p reason, factory plugins requested = .error (.pluginFailed p reason) := by
  by_cases hbuiltin : key requested = builtinName
  · exact .inl ⟨_, factory_of_builtin hbuiltin⟩
  · obtain ⟨p, hfirst⟩ := exists_isFirst ((mem_available.mp hkey).resolve_left hbuiltin)
    rw [factory_of_isFirst hbuiltin hfirst]
    cases p.factory with
    | ok f => exact .inl ⟨f, rfl⟩
    | error reason => exact .inr ⟨p.name, reason, rfl⟩

/-- The lookup fails for want of a renderer exactly when the name is not listed. A factory that fails on its
options, or a plugin that cannot be loaded, is reported in another way. -/
theorem ofName_unknown_iff (options : Options) :
    (∃ asked known, ofName plugins requested options = .error (.unknownOutputType asked known)) ↔
      key requested ∉ available plugins := by
  constructor
  · rintro ⟨asked, known, hunknown⟩ hkey
    obtain ⟨f, hfactory⟩ | ⟨p, reason, hfactory⟩ := factory_of_mem hkey
    · rw [ofName_of_factory hfactory, Factory.result] at hunknown
      split at hunknown
      · cases hunknown
      · cases hunknown
    · rw [ofName_of_factory_error hfactory] at hunknown
      cases hunknown
  · intro hkey
    exact ⟨_, _, ofName_of_factory_error (factory_of_not_mem hkey) options⟩

/-- Dropping entries of other names leaves what is found under a name, repetitions included: the first entry of
the name remains the first. -/
theorem lookup_filter {options : Options} {keep : String × OptionValue → Bool} {name : String}
    (hkeep : ∀ option ∈ options, option.1 = name → keep option = true) :
    (options.filter keep).lookup name = options.lookup name := by
  induction options with
  | nil => rfl
  | cons option options ih =>
    have hrest := ih fun other hother => hkeep other (List.mem_cons_of_mem option hother)
    by_cases hname : option.1 = name
    · rw [List.filter_cons_of_pos (hkeep option List.mem_cons_self hname), List.lookup_cons, List.lookup_cons, hname]
      simp
    · have hother : (name == option.1) = false := by simpa using Ne.symm hname
      rw [List.filter_cons]
      split
      · rw [List.lookup_cons, List.lookup_cons, hother, hrest]
      · rw [List.lookup_cons, hother, hrest]

theorem plantUmlFactory_result (key : String) (given : Options) :
    plantUmlFactory.result key given = .ok (plantUml ((given.lookup visibilityOption).getD (.flag false))) :=
  rfl

/-- The built-in renderer takes its one option from those given, whatever else is among them, and without it
shows no visibility. -/
theorem ofName_of_builtin (hkey : key requested = builtinName) (options : Options) :
    ofName plugins requested options =
      .ok (plantUml ((options.lookup visibilityOption).getD (.flag false))) := by
  have hselect : (plantUmlFactory.accepts.select options).lookup visibilityOption =
      options.lookup visibilityOption := by
    rw [plantUmlFactory, Acceptance.select_ofParameters (by decide)]
    refine lookup_filter fun option _ hname => ?_
    simp [hname, Factory.Parameter.takesOption]
  rw [ofName_of_factory (factory_of_builtin hkey), plantUmlFactory_result, hselect]

/-- The first plugin that registers a name decides. If it cannot be loaded the lookup fails, although a later
plugin of the same name might do. -/
theorem ofName_of_isFirst (hkey : key requested ≠ builtinName) {p : Plugin}
    (hfirst : IsFirst plugins (key requested) p) (options : Options) :
    ofName plugins requested options =
      match p.factory with
      | .error reason => .error (.pluginFailed p.name reason)
      | .ok f => f.result (key requested) (f.accepts.select options) := by
  have hfactory := factory_of_isFirst hkey hfirst
  cases hp : p.factory with
  | error reason =>
    rw [hp] at hfactory
    exact ofName_of_factory_error hfactory options
  | ok f =>
    rw [hp] at hfactory
    exact ofName_of_factory hfactory options

/-- Listing and lookup agree. The list starts with the built-in name, holds besides it the names of the plugins
in small letters, and each of them once; a name that is not listed is what the lookup refuses as unknown. The
built-in renderer cannot be replaced. Any other listed name leads to the first plugin that registers it, also if
that one cannot be loaded. A factory whose signature is known and does not take all options is given those that
it has a parameter for. The list and the search go over the plugins separately, the one to collect each name
once and the other to stop at the first that fits. -/
theorem ofName_agrees_available (plugins : List Plugin) (requested : Option String) (options : Options) :
    (requested.getD "" = "" → key requested = builtinName) ∧
      (∀ name, requested = some name → name ≠ "" → key requested = Text.lower name) ∧
      ((∃ asked known, ofName plugins requested options = .error (.unknownOutputType asked known)) ↔
        key requested ∉ available plugins) ∧
      ((available plugins).Nodup ∧ (available plugins).head? = some builtinName ∧
        ∀ name, name ∈ available plugins ↔ name = builtinName ∨ ∃ p ∈ plugins, Text.lower p.name = name) ∧
      (key requested = builtinName → ofName plugins requested options =
        .ok (plantUml ((options.lookup visibilityOption).getD (.flag false)))) ∧
      (key requested ≠ builtinName →
        (key requested ∈ available plugins → ∃ p, IsFirst plugins (key requested) p) ∧
        ∀ p, IsFirst plugins (key requested) p →
          ofName plugins requested options =
            match p.factory with
            | .error reason => .error (.pluginFailed p.name reason)
            | .ok f => f.result (key requested) (f.accepts.select options)) ∧
      ∀ parameters : List Factory.Parameter, (∀ p ∈ parameters, p.kind ≠ .allNamed) →
        (Acceptance.ofParameters (some parameters)).select options =
          options.filter fun option => parameters.any fun p => p.takesOption && p.name == option.1 := by
  refine ⟨key_of_unnamed, ?_, ofName_unknown_iff options,
    ⟨nodup_available plugins, head?_available plugins, fun _ => mem_available⟩,
    fun hkey => ofName_of_builtin hkey options, fun hkey => ⟨fun hlisted => ?_, fun p hfirst => ?_⟩,
    fun _ hnone => Acceptance.select_ofParameters hnone options⟩
  · rintro name rfl hname
    exact key_of_named hname
  · exact exists_isFirst ((mem_available.mp hlisted).resolve_left hkey)
  · exact ofName_of_isFirst hkey hfirst options

/-- The parameters of `boxFactory`. -/
def boxParameters : List Factory.Parameter :=
  [⟨"width", .placed⟩, ⟨"depth", .placedOrNamed⟩, ⟨"title", .named⟩]

/-- A factory of renderers that keep the options they are given. -/
def boxFactory : Factory where
  accepts := .ofParameters (some boxParameters)
  make options := some { name := "box", options, render := fun _ => "" }

/-- Plugins with names that differ in case alone, one with the name of the built-in renderer, and two that cannot
be loaded. -/
def boxPlugins : List Plugin :=
  [⟨"PlantUML", .ok boxFactory⟩, ⟨"Box", .ok boxFactory⟩, ⟨"Svg", .error "no such module"⟩,
    ⟨"BOX", .error "no such module"⟩, ⟨"svg", .ok boxFactory⟩]

theorem ofName_boxPlugins :
    available boxPlugins = ["plantuml", "box", "svg"] ∧
      (∃ asked known, ofName boxPlugins (some "dot") [] = .error (.unknownOutputType asked known)) ∧
      ofName boxPlugins (some "PLANTUML") [("depth", .null), (visibilityOption, .flag true)] =
        .ok (plantUml (.flag true)) ∧
      ofName boxPlugins (some "SVG") [] = .error (.pluginFailed "Svg" "no such module") ∧
      ofName boxPlugins (some "bOx") [("width", .null), ("depth", .flag true), ("rest", .null)] =
        boxFactory.result "box" [("depth", .flag true)] := by
  have hsvg : key (some "SVG") = "svg" := by decide +kernel
  have hbox : key (some "bOx") = "box" := by decide +kernel
  have hfirstSvg : IsFirst boxPlugins (key (some "SVG")) ⟨"Svg", .error "no such module"⟩ :=
    ⟨boxPlugins.take 2, boxPlugins.drop 3, rfl, by decide +kernel, by rw [hsvg]; decide +kernel⟩
  have hfirstBox : IsFirst boxPlugins (key (some "bOx")) ⟨"Box", .ok boxFactory⟩ :=
    ⟨boxPlugins.take 1, boxPlugins.drop 2, rfl, by decide +kernel, by rw [hbox]; decide +kernel⟩
  obtain ⟨_, _, hunknown, _⟩ := ofName_agrees_available boxPlugins (some "dot") []
  obtain ⟨_, _, _, _, hbuiltin, _⟩ := ofName_agrees_available boxPlugins (some "PLANTUML")
    [("depth", .null), (visibilityOption, .flag true)]
  obtain ⟨_, _, _, _, _, hbroken, _⟩ := ofName_agrees_available boxPlugins (some "SVG") []
  obtain ⟨_, _, _, _, _, hloaded, hselect⟩ := ofName_agrees_available boxPlugins (some "bOx")
    [("width", .null), ("depth", .flag true), ("rest", .null)]
  refine ⟨by decide +kernel, hunknown.mpr (by decide +kernel), hbuiltin (by decide +kernel), ?_, ?_⟩
  · exact (hbroken (by rw [hsvg]; decide)).2 _ hfirstSvg
  · rw [(hloaded (by rw [hbox]; decide)).2 _ hfirstBox, hbox]
    dsimp only
    rw [boxFactory, hselect boxParameters (by decide)]
    rfl

end Renderer

end ClassDiagram
