import LedgerService.Settings.Sources
import Mathlib.Data.List.Basic
import Mathlib.Data.List.TakeDrop
import Mathlib.Data.List.TakeWhile

/-!
# Settings of several sources

Settings that are gathered under plain names lie side by side. A plain name is a path of one step
(`Setting.path_of_plain`), so what is gathered under it takes the place of what was there under that name in any case,
and leaves everything else as it was (`Setting.find?_gathered`). A variable of the environment therefore hides the entry
of the file with its key, and no other (`Sources.find?_gather`).
-/

namespace LedgerService

namespace Text

/-- An ASCII letter, an ASCII digit or an underscore. -/
def IsPlain (character : Char) : Prop := character.toNat < 0x80 ∧ (character.isAlphanum = true ∨ character = '_')

instance (character : Char) : Decidable (IsPlain character) := inferInstanceAs (Decidable (_ ∧ (_ ∨ _)))

/-- The name is made of ASCII letters, digits and underscores. -/
def PlainName (name : String) : Prop := ∀ character ∈ name.toList, IsPlain character

instance (name : String) : Decidable (PlainName name) :=
  List.decidableBAll IsPlain name.toList

/-- The names are plain, and distinct whatever the case of their letters. -/
structure WellNamed (names : List String) : Prop where
  plain : ∀ name ∈ names, PlainName name
  distinct : (names.map lowerCase).Nodup

/-- A character that lower case leaves as it is. -/
def IsLow (character : Char) : Prop := IsPlain character ∧ character.toLower = character

instance (character : Char) : Decidable (IsLow character) := inferInstanceAs (Decidable (_ ∧ _))

theorem IsPlain.isLow_toLower {character : Char} (plain : IsPlain character) : IsLow character.toLower := by
  have table : ∀ code : Fin 0x80, IsPlain (Char.ofNat code) → IsLow (Char.ofNat code).toLower := by decide +kernel
  have looked := table ⟨character.toNat, plain.1⟩
  rw [Char.ofNat_toNat] at looked
  exact looked plain

variable {name : String}

theorem PlainName.toList_lowerCase (plain : PlainName name) :
    (lowerCase name).toList = name.toList.map Char.toLower := by
  rw [lowerCase, String.toList_ofList, List.map_eq_flatMap]
  apply List.flatMap_congr
  intro character member
  simp [toLowerCase, (plain character member).1]

theorem PlainName.isLow_lowerCase (plain : PlainName name) :
    ∀ character ∈ (lowerCase name).toList, IsLow character := by
  intro character member
  rw [plain.toList_lowerCase] at member
  rcases List.mem_map.mp member with ⟨own, inside, rfl⟩
  exact (plain own inside).isLow_toLower

/-- A text of low characters is a plain name that lower case leaves as it is. -/
theorem lowerCase_of_isLow (low : ∀ character ∈ name.toList, IsLow character) :
    PlainName name ∧ lowerCase name = name := by
  have plain : PlainName name := fun character member => (low character member).1
  refine ⟨plain, ?_⟩
  apply String.toList_inj.mp
  rw [plain.toList_lowerCase]
  exact (List.map_congr_left fun character member => (low character member).2).trans (List.map_id' _)

end Text

open Text (PlainName WellNamed lowerCase)

namespace Setting

theorem isPathCharacter_of_isPlain {character : Char} (plain : Text.IsPlain character) :
    isPathCharacter character = true := by
  rcases plain with ⟨-, letter | underscore⟩
  · simp [isPathCharacter, letter]
  · simp [isPathCharacter, underscore]

/-- A plain name is a path of one step. -/
theorem path_of_plain {name : String} (plain : PlainName name) : path name = (name, []) := by
  have whole : name.toList.span isPathCharacter = (name.toList, []) := by
    have all : ∀ character ∈ name.toList, isPathCharacter character = true :=
      fun character member => isPathCharacter_of_isPlain (plain character member)
    rw [List.span_eq_takeWhile_dropWhile, List.takeWhile_eq_self_iff.mpr all, List.dropWhile_eq_nil_iff.mpr all]
  rw [path, pathKey, whole]
  cases empty : name.toList.isEmpty with
  | true => simp [empty]
  | false => simp [empty, pathSteps]

/-- A setting as it is gathered: the tables in it are gathered as well. -/
def folded : Setting → Setting
  | .table inner => assignAll (.table []) inner
  | setting => setting

/-- The setting is no table, into which others might be merged. -/
def Flat (setting : Setting) : Prop := ∀ inner, setting ≠ .table inner

theorem Flat.folded {setting : Setting} (flat : Flat setting) : setting.folded = setting := by
  cases setting with
  | table inner => exact absurd rfl (flat inner)
  | _ => rfl

theorem lookup_cons_eq {α : Type} (key other : String) (value : α) (entries : List (String × α)) :
    ((key, value) :: entries).lookup other = if other = key then some value else entries.lookup other := by
  by_cases asked : other = key
  · simp [asked]
  · simp [List.lookup_cons, beq_false_of_ne asked, asked]

theorem lookup_putEntry (key other : String) (value : Setting) (entries : List (String × Setting)) :
    (putEntry key value entries).lookup other = if other = key then some value else entries.lookup other := by
  induction entries with
  | nil => exact lookup_cons_eq key other value []
  | cons entry rest ih =>
      rcases entry with ⟨own, setting⟩
      by_cases same : own = key
      · subst same
        by_cases asked : other = own
        · simp [putEntry, asked]
        · simp [putEntry, lookup_cons_eq, asked]
      · by_cases asked : other = own
        · simp [putEntry, asked, same]
        · simp [putEntry, lookup_cons_eq, asked, same, ih]

theorem find?_put (setting value : Setting) (key other : String) :
    (setting.put key value).find? other = if other = key then some value else setting.find? other :=
  lookup_putEntry key other value setting.entries

/-- What is assigned to a key takes its place, unless tables are merged. -/
theorem assign_eq {setting value : Setting} {key : String}
    (clear : setting.find? (lowerCase key) = none ∨ value.Flat) :
    setting.assign key value = setting.put (lowerCase key) value.folded := by
  cases value with
  | table inner =>
      rcases clear with vacant | flat
      · rw [assign, vacant]
        rfl
      · exact absurd rfl (flat inner)
  | _ => rfl

/-- Settings gathered one after the other. -/
def gathered (setting : Setting) (settings : List (String × Setting)) : Setting :=
  settings.foldl (fun gathered (path, value) => gathered.assignPath path value) setting

/-- The setting under a key, whatever the case of its name. -/
def underKey? (settings : List (String × Setting)) (key : String) : Option Setting :=
  (settings.find? fun entry => lowerCase entry.1 = key).map fun entry => entry.2.folded

theorem underKey?_eq_none {settings : List (String × Setting)} {key : String} :
    underKey? settings key = none ↔ key ∉ (settings.map Prod.fst).map lowerCase := by
  simp [underKey?]

theorem underKey?_cons (name : String) (value : Setting) (rest : List (String × Setting)) (key : String) :
    underKey? ((name, value) :: rest) key = if lowerCase name = key then some value.folded else underKey? rest key := by
  by_cases asked : lowerCase name = key
  · simp [underKey?, asked]
  · simp [underKey?, asked]

theorem find?_gathered (setting : Setting) {settings : List (String × Setting)}
    (named : WellNamed (settings.map Prod.fst))
    (clear : ∀ entry ∈ settings, setting.find? (lowerCase entry.1) = none ∨ entry.2.Flat) (key : String) :
    (setting.gathered settings).find? key = (underKey? settings key).or (setting.find? key) := by
  induction settings generalizing setting with
  | nil => rfl
  | cons entry rest ih =>
      rcases entry with ⟨name, value⟩
      rcases named with ⟨plain, distinct⟩
      rcases List.forall_mem_cons.mp clear with ⟨own, others⟩
      rcases List.forall_mem_cons.mp plain with ⟨plainName, plainRest⟩
      rcases List.nodup_cons.mp distinct with ⟨alone, distinctRest⟩
      have placed : setting.assignPath name value = setting.put (lowerCase name) value.folded := by
        rw [assignPath, path_of_plain plainName]
        exact assign_eq own
      have before : setting.gathered ((name, value) :: rest) =
          (setting.put (lowerCase name) value.folded).gathered rest := congrArg (gathered · rest) placed
      have elsewhere : ∀ entry ∈ rest,
          (setting.put (lowerCase name) value.folded).find? (lowerCase entry.1) = none ∨ entry.2.Flat := by
        intro entry member
        have different : lowerCase entry.1 ≠ lowerCase name := by
          intro same
          rw [← same] at alone
          exact alone (List.mem_map_of_mem (List.mem_map_of_mem member))
        simpa [find?_put, different] using others entry member
      rw [before, ih _ ⟨plainRest, distinctRest⟩ elsewhere, find?_put]
      by_cases asked : lowerCase name = key
      · subst asked
        simp [underKey?_eq_none.mpr alone, underKey?_cons]
      · simp [underKey?_cons, asked, Ne.symm asked]

/-- The first key of a path, in lower case. -/
def root (text : String) : String := lowerCase (path text).1

/-- What is gathered under a path takes the place of what was under its root, and depends on nothing else there was. -/
theorem exists_assignPath_eq (text : String) (value : Setting) : ∃ placed : Option Setting → Setting,
    ∀ setting : Setting, setting.assignPath text value = setting.put (root text) (placed (setting.find? (root text))) := by
  cases final : (path text).2.getLast? with
  | none =>
      have assigned (setting : Setting) : setting.assignPath text value = setting.assign (path text).1 value := by
        simp only [assignPath, final]
      simp only [assigned]
      cases value with
      | table inner => exact ⟨fun found => assignAll (found.getD (.table [])) inner, fun _ => rfl⟩
      | _ => exact ⟨fun _ => _, fun _ => rfl⟩
  | some last =>
      let within (place : Setting → Setting) (found : Option Setting) : Setting :=
        change place (path text).2.dropLast (found.getD .absent)
      cases last with
      | child key =>
          refine ⟨within fun parent => parent.assign key value, fun setting => ?_⟩
          simp only [assignPath, final]
          rfl
      | item index =>
          refine ⟨within fun parent => parent.changeItem index fun _ => value, fun setting => ?_⟩
          simp only [assignPath, final]
          rfl

/-- What is gathered into a table is a table. -/
theorem exists_entries_gathered (settings entries : List (String × Setting)) :
    ∃ more, gathered (.table entries) settings = .table more := by
  induction settings generalizing entries with
  | nil => exact ⟨entries, rfl⟩
  | cons entry rest ih =>
      rcases exists_assignPath_eq entry.1 entry.2 with ⟨placed, assigned⟩
      rcases ih _ with ⟨all, same⟩
      exact ⟨all, (congrArg (gathered · rest) (assigned _)).trans same⟩

theorem gathered_append (setting : Setting) (front back : List (String × Setting)) :
    setting.gathered (front ++ back) = (setting.gathered front).gathered back := List.foldl_append

theorem gathered_cons (setting : Setting) (entry : String × Setting) (rest : List (String × Setting)) :
    setting.gathered (entry :: rest) = (setting.assignPath entry.1 entry.2).gathered rest := rfl

/-- What is gathered under a key depends only on what was there under the key. -/
theorem find?_gathered_congr {one other : Setting} {key : String} (same : one.find? key = other.find? key)
    (settings : List (String × Setting)) : (one.gathered settings).find? key = (other.gathered settings).find? key := by
  induction settings generalizing one other with
  | nil => exact same
  | cons entry rest ih =>
      rcases exists_assignPath_eq entry.1 entry.2 with ⟨placed, assigned⟩
      rw [gathered_cons, gathered_cons]
      apply ih
      rw [assigned, assigned, find?_put, find?_put]
      by_cases asked : key = root entry.1
      · rw [← asked, same]
      · rw [if_neg asked, if_neg asked, same]

/-- Settings with other roots leave a key as it is. -/
theorem find?_gathered_of_apart {key : String} {settings : List (String × Setting)}
    (apart : ∀ entry ∈ settings, root entry.1 ≠ key) (setting : Setting) :
    (setting.gathered settings).find? key = setting.find? key := by
  induction settings generalizing setting with
  | nil => rfl
  | cons entry rest ih =>
      rcases List.forall_mem_cons.mp apart with ⟨own, others⟩
      rcases exists_assignPath_eq entry.1 entry.2 with ⟨placed, assigned⟩
      rw [gathered_cons, ih others, assigned, find?_put, if_neg (Ne.symm own)]

/-- One setting more changes nothing but what is under its key, and is there itself if no other for its key follows. -/
theorem find?_gathered_insert {key : String} {value : Setting} (plain : PlainName key) (low : lowerCase key = key)
    (flat : value.Flat) {back : List (String × Setting)} (apart : ∀ entry ∈ back, root entry.1 ≠ key)
    (front : List (String × Setting)) (setting : Setting) (other : String) :
    (setting.gathered (front ++ (key, value) :: back)).find? other =
      if other = key then some value else (setting.gathered (front ++ back)).find? other := by
  have placed (before : Setting) : before.assignPath key value = before.put key value := by
    rw [assignPath, path_of_plain plain]
    exact (assign_eq (.inr flat)).trans (by rw [low, flat.folded])
  rw [gathered_append, gathered_append, gathered_cons, placed]
  by_cases asked : other = key
  · subst asked
    rw [find?_gathered_of_apart apart, find?_put, if_pos rfl, if_pos rfl]
  · rw [if_neg asked]
    apply find?_gathered_congr
    rw [find?_put, if_neg asked]

end Setting

/-! ### Variables of the environment -/

theorem Setting.gather?_eq {file : SettingsFile} {settings : List (String × Setting)}
    (readable : file.settings? = some settings) (environment : List (String × String)) :
    Setting.gather? file environment =
      some ((Setting.table []).gathered (settings ++ variableSettings environment)) := by
  rw [gather?, readable]
  rfl

theorem Setting.flat_ofVariable (text : String) : (Setting.ofVariable text).Flat := by
  have real (number : Option Binary64) : ((number.map Setting.real).getD (.text text)).Flat := by
    cases number with
    | none => exact fun inner => nofun
    | some value => exact fun inner => nofun
  simp only [ofVariable]
  split
  · exact fun inner => nofun
  · split
    · exact fun inner => nofun
    · split
      · split
        · exact fun inner => nofun
        · exact real _
      · exact real _

theorem variableKey?_eq_some {name key : String} :
    variableKey? name = some key ↔ lowerCase name = "ledger_rpc_" ++ key := by
  have spelled : "ledger_rpc_".toList = variableStart := rfl
  rw [← String.toList_inj, String.toList_append, spelled, variableKey?]
  constructor
  · intro found
    split at found
    case isTrue starts =>
      rcases List.isPrefixOf_iff_prefix.mp starts with ⟨rest, parts⟩
      rw [← parts, List.drop_left] at found
      rw [← parts, ← Option.some.inj found, String.toList_ofList]
    case isFalse => cases found
  · intro parts
    have starts : variableStart.isPrefixOf (lowerCase name).toList = true :=
      List.isPrefixOf_iff_prefix.mpr ⟨key.toList, parts.symm⟩
    simp [parts]

/-- The key of a variable with a plain name is a plain name in lower case. -/
theorem isLow_of_variableKey? {name key : String} (plain : PlainName name) (found : variableKey? name = some key) :
    ∀ character ∈ key.toList, Text.IsLow character := by
  intro character member
  apply plain.isLow_lowerCase
  rw [variableKey?_eq_some.mp found, String.toList_append]
  exact List.mem_append_right _ member

/-- The setting that the environment has for a key. -/
def environmentSetting? (environment : List (String × String)) (key : String) : Option Setting :=
  (environment.find? fun entry => lowerCase entry.1 = "ledger_rpc_" ++ key).map fun entry => .ofVariable entry.2

section

variable {environment : List (String × String)}

theorem wellNamed_variableSettings (named : WellNamed (environment.map Prod.fst)) :
    WellNamed ((variableSettings environment).map Prod.fst) := by
  rcases named with ⟨plain, distinct⟩
  have low : ∀ entry ∈ environment, ∀ key, variableKey? entry.1 = some key → PlainName key ∧ lowerCase key = key := by
    intro entry member key found
    exact Text.lowerCase_of_isLow (isLow_of_variableKey? (plain entry.1 (List.mem_map_of_mem member)) found)
  constructor
  · intro key member
    simp only [variableSettings, List.mem_map, List.mem_filterMap, Option.map_eq_some_iff] at member
    rcases member with ⟨-, ⟨entry, inside, own, found, rfl⟩, rfl⟩
    exact (low entry inside own found).1
  · simp only [List.Nodup, List.pairwise_map, variableSettings, List.pairwise_filterMap] at distinct ⊢
    apply List.Pairwise.imp_of_mem _ distinct
    intro one other oneMember otherMember different oneSetting oneFound otherSetting otherFound same
    rcases Option.map_eq_some_iff.mp oneFound with ⟨key, named, rfl⟩
    rcases Option.map_eq_some_iff.mp otherFound with ⟨otherKey, otherNamed, rfl⟩
    apply different
    dsimp only at same
    rw [(low one oneMember key named).2, (low other otherMember otherKey otherNamed).2] at same
    rw [variableKey?_eq_some.mp named, variableKey?_eq_some.mp otherNamed, same]

theorem underKey?_variableSettings (plain : ∀ entry ∈ environment, PlainName entry.1) (key : String) :
    Setting.underKey? (variableSettings environment) key = environmentSetting? environment key := by
  induction environment with
  | nil => rfl
  | cons entry rest ih =>
      rcases List.forall_mem_cons.mp plain with ⟨own, others⟩
      rcases entry with ⟨name, text⟩
      have skipped : environmentSetting? ((name, text) :: rest) key =
          if lowerCase name = "ledger_rpc_" ++ key then some (.ofVariable text) else environmentSetting? rest key := by
        by_cases asked : lowerCase name = "ledger_rpc_" ++ key
        · simp [environmentSetting?, asked]
        · simp [environmentSetting?, asked]
      rw [skipped, ← ih others]
      cases found : variableKey? name with
      | none =>
          have different : lowerCase name ≠ "ledger_rpc_" ++ key := by
            intro same
            rw [variableKey?_eq_some.mpr same] at found
            cases found
          simp [variableSettings, found, different]
      | some named =>
          have asked : lowerCase name = "ledger_rpc_" ++ key ↔ named = key := by
            rw [← variableKey?_eq_some, found, Option.some.injEq]
          have low := (Text.lowerCase_of_isLow (isLow_of_variableKey? own found)).2
          have more : variableSettings ((name, text) :: rest) = (named, .ofVariable text) :: variableSettings rest := by
            simp [variableSettings, found]
          simp only [more, Setting.underKey?_cons, low, (Setting.flat_ofVariable text).folded, asked]

end

/-- A settings file and an environment, each with plain names that differ by more than the case of their letters. -/
structure Sources where
  file : SettingsFile
  environment : List (String × String)
  fileNamed : ∀ settings ∈ file.settings?, WellNamed (settings.map Prod.fst)
  environmentNamed : WellNamed (environment.map Prod.fst)

namespace Sources

/-- The setting for a key in the file. -/
def fileSetting? (sources : Sources) (key : String) : Option Setting :=
  sources.file.settings?.bind fun settings => Setting.underKey? settings key

/-- The setting for a key: that of the environment, or else that of the file. -/
def setting? (sources : Sources) (key : String) : Option Setting :=
  (environmentSetting? sources.environment key).or (sources.fileSetting? key)

/-- The settings of both sources, gathered, have for every key the setting of the source that takes precedence. -/
theorem find?_gather (sources : Sources) {settings : List (String × Setting)}
    (readable : sources.file.settings? = some settings) :
    ∃ entries, Setting.gather? sources.file sources.environment = some (.table entries) ∧
      ∀ key, entries.lookup key = sources.setting? key := by
  have fileNamed := sources.fileNamed settings readable
  have environmentNamed := wellNamed_variableSettings sources.environmentNamed
  have plain : ∀ entry ∈ sources.environment, PlainName entry.1 :=
    fun entry member => sources.environmentNamed.plain entry.1 (List.mem_map_of_mem member)
  have flat : ∀ entry ∈ variableSettings sources.environment, entry.2.Flat := by
    intro entry member
    simp only [variableSettings, List.mem_filterMap, Option.map_eq_some_iff] at member
    rcases member with ⟨own, -, key, -, rfl⟩
    exact Setting.flat_ofVariable own.2
  rcases Setting.exists_entries_gathered settings [] with ⟨fromFile, first⟩
  rcases Setting.exists_entries_gathered (variableSettings sources.environment) fromFile with ⟨entries, both⟩
  refine ⟨entries, by rw [Setting.gather?_eq readable, Setting.gathered_append, first, both], ?_⟩
  intro key
  have ofFile := Setting.find?_gathered (.table []) fileNamed (fun _ _ => .inl rfl) key
  have ofBoth := Setting.find?_gathered (.table fromFile) environmentNamed
    (fun entry member => .inr (flat entry member)) key
  rw [first] at ofFile
  rw [both, ofFile, underKey?_variableSettings plain] at ofBoth
  simpa [setting?, fileSetting?, readable, Setting.find?, Setting.entries] using ofBoth

end Sources

end LedgerService
