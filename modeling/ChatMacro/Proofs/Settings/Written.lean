import ChatMacro.Proofs.Settings.Faults
import ChatMacro.Proofs.Settings.Quoting

/-!
# Written settings

Settings can be written with one directive on a line and be loaded again.  Directives that do
different things can change places, so only the order of replacements and that of words to reject
must be kept.
-/

namespace ChatMacro

/-! ## Steps that can change places -/

section

variable {State Item Kind : Type} {step : State → Item → State} {kind : Item → Kind}
  (commute : ∀ state first second, kind first ≠ kind second →
    step (step state first) second = step (step state second) first)

include commute

/-- A step can be taken before steps of other kinds. -/
theorem foldl_step_of_kind_ne {item : Item} {items : List Item}
    (different : ∀ other ∈ items, kind other ≠ kind item) (state : State) :
    step (items.foldl step state) item = items.foldl step (step state item) := by
  induction items generalizing state with
  | nil => rfl
  | cons other items ih =>
      obtain ⟨here, later⟩ := List.forall_mem_cons.mp different
      rw [List.foldl_cons, ih later, commute state other item here, List.foldl_cons]

/-- Steps of different kinds can change places: the result depends only on the order of the steps of
each kind. -/
theorem foldl_eq_of_filter_eq [DecidableEq Kind] {left right : List Item}
    (same : ∀ sought, left.filter (kind · = sought) = right.filter (kind · = sought))
    (state : State) : left.foldl step state = right.foldl step state := by
  -- The first step of the left list is the first one of its kind in the right list, where it can be
  -- taken before the steps in front of it.
  induction left generalizing right state with
  | nil =>
      cases right with
      | nil => rfl
      | cons item right => simpa using same (kind item)
  | cons item left ih =>
      have ofKind := same (kind item)
      rw [List.filter_cons_of_pos (by simp)] at ofKind
      obtain ⟨front, back, rfl, different, -, rest⟩ := List.filter_eq_cons_iff.mp ofKind.symm
      simp only [decide_eq_true_eq] at different
      have sameRest (sought : Kind) :
          left.filter (kind · = sought) = (front ++ back).filter (kind · = sought) := by
        have whole := same sought
        by_cases isSought : kind item = sought
        · subst isSought
          have none : front.filter (kind · = kind item) = [] :=
            List.filter_eq_nil_iff.mpr fun other isIn => by simpa using different other isIn
          rw [List.filter_append, none, List.nil_append, rest]
        · simpa [List.filter_append, isSought] using whole
      calc (item :: left).foldl step state
        _ = (front ++ back).foldl step (step state item) := ih sameRest (step state item)
        _ = back.foldl step (step (front.foldl step state) item) := by
          rw [List.foldl_append, foldl_step_of_kind_ne commute different]
        _ = (front ++ item :: back).foldl step state := by
          rw [List.foldl_append, List.foldl_cons]

end

namespace Directive

/-! ## Lines with directives -/

/-- The word for a switch. -/
def switchWord (enabled : Bool) : String :=
  if enabled then "on" else "off"

/-- The line that gives a setting a value. -/
def settingLine (form : SettingForm) (name value : String) : List Char :=
  lineText "set".toList (settingText form name.toList value.toList)

/-- The line with a directive. -/
def line (form : SettingForm) : Directive → List Char
  | .store path => settingLine form "store" path
  | .root path => settingLine form "prefix" path
  | .early enabled => settingLine form "pre_command" (switchWord enabled)
  | .late enabled => settingLine form "post_command" (switchWord enabled)
  | .scope field => settingLine form "namespace" (field.getD "")
  | .replace pattern replacement =>
      lineText "replace".toList (quoted pattern.toList ++ [' '] ++ quoted replacement.toList)
  | .reject word => lineText "reject".toList (quoted word.toList)

/-- What the words of a directive must be so that it can be written: paths of stores, fields,
patterns and words to reject are not empty, the path of a store starts with no tilde, and no word
holds a line feed. -/
def Writable : Directive → Prop
  | .store path => path ≠ "" ∧ path.toList.head? ≠ some '~' ∧ '\n' ∉ path.toList
  | .root path => '\n' ∉ path.toList
  | .early _ | .late _ => True
  | .scope field => ∀ name ∈ field, name ≠ "" ∧ '\n' ∉ name.toList
  | .replace pattern replacement =>
      pattern ≠ "" ∧ '\n' ∉ pattern.toList ∧ '\n' ∉ replacement.toList
  | .reject word => word ≠ "" ∧ '\n' ∉ word.toList

theorem switch?_switchWord (enabled : Bool) : switch? (switchWord enabled) = some enabled := by
  cases enabled <;> decide +kernel

theorem ofSwitch_switchWord (name : String) (enabled : Bool) (directive : Bool → Directive) :
    ofSwitch name (switchWord enabled) directive = .ok (directive enabled) := by
  rw [ofSwitch, switch?_switchWord]

theorem ofWords_set {home setting value : String} {words : List String} {directive : Directive}
    (split : settingOf words = .ok (setting, value))
    (isSet : ofSetting home setting value = .ok directive) :
    ofWords home "set" words = .ok (some directive) := by
  unfold ofWords
  rw [if_pos rfl, split]
  simp only [bind, Except.bind, isSet]
  rfl

/-- A setting is read from its line with its value. -/
theorem parse_settingLine (home : String) (form : SettingForm) {name : String}
    (bare : IsBare name.toList) (named : name ≠ "") (value : String) {directive : Directive}
    (isSet : ofSetting home name value = .ok directive) :
    parse home (settingLine form name value) = .ok (some directive) := by
  have nonempty : name.toList ≠ [] := String.toList_eq_nil_iff.not.mpr named
  have notEmpty : settingText form name.toList value.toList ≠ [] := by
    cases form <;> simp [settingText, quoted]
  rw [settingLine, parse_lineText home (by decide)
    (trimmed_settingText form bare nonempty value.toList) notEmpty]
  refine ofWords_set (settingOf_settingText form bare nonempty value.toList) ?_
  rw [String.ofList_toList, String.ofList_toList, isSet]

/-- A directive is read from its line. -/
theorem parse_line (home : String) (form : SettingForm) {directive : Directive}
    (writable : directive.Writable) : parse home (directive.line form) = .ok (some directive) := by
  cases directive with
  | store path =>
      obtain ⟨nonempty, noTilde, -⟩ := writable
      refine parse_settingLine home form (by decide) (by decide) path ?_
      rw [ofSetting, if_pos rfl, String.isEmpty_eq_false_iff.mpr nonempty, if_neg (by decide),
        Path.expandHome_of_head? noTilde]
  | root path => exact parse_settingLine home form (by decide) (by decide) path rfl
  | early enabled =>
      refine parse_settingLine home form (by decide) (by decide) (switchWord enabled) ?_
      exact ofSwitch_switchWord "pre_command" enabled .early
  | late enabled =>
      refine parse_settingLine home form (by decide) (by decide) (switchWord enabled) ?_
      exact ofSwitch_switchWord "post_command" enabled .late
  | scope field =>
      refine parse_settingLine home form (by decide) (by decide) (field.getD "") ?_
      cases field with
      | none => rfl
      | some name =>
          have nonempty : name ≠ "" := (writable name rfl).1
          have scope_eq : ofSetting home "namespace" name =
              .ok (.scope (if name.isEmpty then none else some name)) := rfl
          rw [Option.getD_some, scope_eq, String.isEmpty_eq_false_iff.mpr nonempty]
          rfl
  | replace pattern replacement =>
      have trimmed : Text.Trimmed (quoted pattern.toList ++ [' '] ++ quoted replacement.toList) :=
        trimmed_append_quoted (by simp [quoted]; decide) _
      have words_eq := words_quoted_pair pattern.toList replacement.toList
      rw [line, parse_lineText home (by decide) trimmed (by simp [quoted]), words_eq]
      simp only [String.ofList_toList]
      change (if pattern.isEmpty then _ else _) = _
      rw [String.isEmpty_eq_false_iff.mpr writable.1]
      rfl
  | reject word =>
      have trimmed : Text.Trimmed (quoted word.toList) :=
        @trimmed_append_quoted [] (by simp) _
      rw [line, parse_lineText home (by decide) trimmed (by simp [quoted]), words_quoted]
      simp only [String.ofList_toList]
      change (if word.isEmpty then _ else _) = _
      rw [String.isEmpty_eq_false_iff.mpr writable.1]
      rfl

/-! ## One line for a directive -/

theorem not_mem_quoted {character : Char} (unquoted : character ≠ '"')
    (notEscape : character ≠ '\\') {word : List Char} (free : character ∉ word) :
    character ∉ quoted word := by
  have notEscaped : ∀ other ∈ word, character ∉ escaped other := by
    intro other isIn
    have different : character ≠ other := fun same => free (same ▸ isIn)
    rw [escaped]
    split <;> simp [different, notEscape]
  simpa [quoted, unquoted] using notEscaped

theorem not_mem_settingText (form : SettingForm) {name value : List Char} (nameFree : '\n' ∉ name)
    (valueFree : '\n' ∉ value) : '\n' ∉ settingText form name value := by
  have quotedFree {word : List Char} := @not_mem_quoted '\n' (by decide) (by decide) word
  cases form with
  | joined => exact quotedFree (by simp [nameFree, valueFree])
  | joinedBare => simp [settingText, nameFree, quotedFree valueFree]
  | apart => simp [settingText, quotedFree nameFree, quotedFree valueFree]
  | apartBare => simp [settingText, nameFree, quotedFree valueFree]

theorem not_mem_lineText {name following : List Char} (nameFree : '\n' ∉ name)
    (followingFree : '\n' ∉ following) : '\n' ∉ lineText name following := by
  simp [lineText, nameFree, followingFree]

/-- A directive that can be written stands on one line. -/
theorem not_mem_line (form : SettingForm) {directive : Directive}
    (writable : directive.Writable) : '\n' ∉ directive.line form := by
  have quotedFree {word : List Char} := @not_mem_quoted '\n' (by decide) (by decide) word
  have settingFree (name : String) {value : String} (nameFree : '\n' ∉ name.toList)
      (valueFree : '\n' ∉ value.toList) : '\n' ∉ settingLine form name value :=
    not_mem_lineText (by decide) (not_mem_settingText form nameFree valueFree)
  cases directive with
  | store path => exact settingFree "store" (by decide) writable.2.2
  | root path => exact settingFree "prefix" (by decide) writable
  | early enabled => exact settingFree "pre_command" (by decide) (by cases enabled <;> decide)
  | late enabled => exact settingFree "post_command" (by decide) (by cases enabled <;> decide)
  | scope field =>
      refine settingFree "namespace" (by decide) ?_
      cases field with
      | none => decide
      | some name => exact (writable name rfl).2
  | replace pattern replacement =>
      refine not_mem_lineText (by decide) ?_
      simp [quotedFree writable.2.1, quotedFree writable.2.2]
  | reject word => exact not_mem_lineText (by decide) (quotedFree writable.2)

end Directive

namespace Settings

/-! ## Directives of settings -/

/-- The directives that make settings. -/
def directives (settings : Settings) : List Directive :=
  settings.store.toList.map .store ++
    [.root settings.options.root, .early settings.options.early, .late settings.options.late] ++
    settings.scope.toList.map (fun field => .scope (some field)) ++
    settings.replacements.map (fun replacement => .replace replacement.1 replacement.2) ++
    settings.rejections.map .reject

/-- Settings that can be written: no text in them holds a line feed, what is there of the store, the
field, the patterns and the words is not empty, and the path of the store starts with no tilde. -/
structure Writable (settings : Settings) : Prop where
  /-- The file of the store. -/
  store : ∀ path ∈ settings.store,
    path ≠ "" ∧ path.toList.head? ≠ some '~' ∧ '\n' ∉ path.toList
  /-- The root of the paths of variables. -/
  root : '\n' ∉ settings.options.root.toList
  /-- The field that keeps variables apart. -/
  scope : ∀ field ∈ settings.scope, field ≠ "" ∧ '\n' ∉ field.toList
  /-- The patterns and their replacements. -/
  replacements : ∀ replacement ∈ settings.replacements,
    replacement.1 ≠ "" ∧ '\n' ∉ replacement.1.toList ∧ '\n' ∉ replacement.2.toList
  /-- The words to reject. -/
  rejections : ∀ word ∈ settings.rejections, word ≠ "" ∧ '\n' ∉ word.toList

theorem Writable.directives {settings : Settings} (writable : settings.Writable) :
    ∀ directive ∈ settings.directives, directive.Writable := by
  intro directive isIn
  simp only [Settings.directives, List.mem_append, List.mem_map, List.mem_cons,
    List.not_mem_nil, or_false, Option.mem_toList] at isIn
  rcases isIn with (((⟨path, isStore, rfl⟩ | rfl | rfl | rfl) | ⟨field, isScope, rfl⟩) |
    ⟨replacement, isReplacement, rfl⟩) | ⟨word, isWord, rfl⟩
  · exact writable.store path isStore
  · exact writable.root
  · trivial
  · trivial
  · rintro _ ⟨⟩
    exact writable.scope field isScope
  · exact writable.replacements replacement isReplacement
  · exact writable.rejections word isWord

theorem foldl_replace (settings : Settings) (replacements : List (String × String)) :
    (replacements.map fun replacement => Directive.replace replacement.1 replacement.2).foldl
        follow settings =
      { settings with replacements := settings.replacements ++ replacements } := by
  induction replacements generalizing settings with
  | nil => simp
  | cons replacement replacements ih => simp [ih, follow]

theorem foldl_reject (settings : Settings) (words : List String) :
    (words.map Directive.reject).foldl follow settings =
      { settings with rejections := settings.rejections ++ words } := by
  induction words generalizing settings with
  | nil => simp
  | cons word words ih => simp [ih, follow]

/-- The directives of settings make these settings. -/
theorem foldl_directives (settings : Settings) :
    settings.directives.foldl follow {} = settings := by
  rw [directives, List.foldl_append, List.foldl_append, foldl_replace, foldl_reject]
  obtain ⟨store, options, scope, replacements, rejections⟩ := settings
  cases store <;> cases scope <;> simp [follow]

/-- Directives of different kinds can change places. -/
theorem follow_comm (settings : Settings) (first second : Directive)
    (different : first.ctorIdx ≠ second.ctorIdx) :
    (settings.follow first).follow second = (settings.follow second).follow first := by
  -- Each kind sets something else, so all that is left are two directives of one kind.
  cases first <;> cases second <;> first | rfl | exact absurd rfl different

/-! ## Files -/

/-- Directives with the forms in which they are written. -/
abbrev Script := List (Directive.SettingForm × Directive)

/-- The directives of a script are those of settings.  The ones of each kind stand in the same order
in both. -/
def IsScript (settings : Settings) (script : Script) : Prop :=
  ∀ kind, (script.map Prod.snd).filter (·.ctorIdx = kind) =
    settings.directives.filter (·.ctorIdx = kind)

theorem filter_kind_of_le {kind : Nat} (unknown : 7 ≤ kind) (directives : List Directive) :
    directives.filter (·.ctorIdx = kind) = [] := by
  refine List.filter_eq_nil_iff.mpr fun directive _ => ?_
  have known : directive.ctorIdx < 7 := by cases directive <;> simp [Directive.ctorIdx]
  simp only [decide_eq_true_eq]
  omega

instance (settings : Settings) (script : Script) : Decidable (settings.IsScript script) :=
  decidable_of_iff (∀ kind ∈ List.range 7, (script.map Prod.snd).filter (·.ctorIdx = kind) =
      settings.directives.filter (·.ctorIdx = kind)) <| by
    refine ⟨fun same kind => ?_, fun same kind _ => same kind⟩
    rcases Nat.lt_or_ge kind 7 with known | unknown
    · exact same kind (List.mem_range.mpr known)
    · rw [filter_kind_of_le unknown, filter_kind_of_le unknown]

/-- The lines of a script. -/
def scriptLines (script : Script) : List (List Char) :=
  script.map fun written => written.2.line written.1

/-- The text of a script, whose last line may have an end. -/
def text (script : Script) (ended : Bool) : String :=
  String.ofList (['\n'].intercalate (scriptLines script ++ if ended then [[]] else []))

section

variable {settings : Settings} {script : Script}

theorem IsScript.mem_iff (isScript : settings.IsScript script) {directive : Directive} :
    directive ∈ script.map Prod.snd ↔ directive ∈ settings.directives := by
  have ofKind := isScript directive.ctorIdx
  simpa using (congrArg (directive ∈ ·) ofKind).to_iff

theorem IsScript.writable (isScript : settings.IsScript script) (writable : settings.Writable) :
    ∀ written ∈ script, written.2.Writable := fun _ isIn =>
  writable.directives _ (isScript.mem_iff.mp (List.mem_map_of_mem isIn))

theorem IsScript.ne_nil (isScript : settings.IsScript script) : script ≠ [] := by
  rintro rfl
  have hasRoot : Directive.root settings.options.root ∈ settings.directives := by
    simp [directives]
  cases isScript.mem_iff.mpr hasRoot

/-- A script makes the settings that it is one of. -/
theorem IsScript.foldl_eq (isScript : settings.IsScript script) :
    (script.map Prod.snd).foldl follow {} = settings :=
  (foldl_eq_of_filter_eq follow_comm isScript {}).trans settings.foldl_directives

/-- Lines with directives are read one after the other. -/
theorem readLines_written (home : String) (writable : ∀ written ∈ script, written.2.Writable)
    (settings : Settings) (number : Nat) (rest : List (List Char)) :
    readLines home settings number (scriptLines script ++ rest) =
      readLines home ((script.map Prod.snd).foldl follow settings) (number + script.length)
        rest := by
  induction script generalizing settings number with
  | nil => rfl
  | cons written script ih =>
      obtain ⟨here, later⟩ := List.forall_mem_cons.mp writable
      rw [scriptLines, List.map_cons, List.cons_append, ← scriptLines,
        readLines_cons_of_ok (Directive.parse_line home written.1 here), ih later,
        List.length_cons, Nat.add_right_comm]
      rfl

/-- Settings that can be written are loaded again from the text of any of their scripts, in which
each directive stands on a line of its own with its words in quotes, and without faults.  The
settings stand in any form, and directives of different kinds in any order. -/
theorem load_text (writable : settings.Writable) (isScript : settings.IsScript script)
    (home : String) (ended : Bool) : load home (text script ended) = (settings, []) := by
  have single : ∀ line ∈ scriptLines script ++ (if ended then [[]] else []), '\n' ∉ line := by
    intro line isLine
    rcases List.mem_append.mp isLine with isWritten | isEnd
    · obtain ⟨written, isIn, rfl⟩ := List.mem_map.mp isWritten
      exact Directive.not_mem_line written.1 (isScript.writable writable written isIn)
    · cases ended <;> simp_all
  have nonempty : scriptLines script ≠ [] := List.map_eq_nil_iff.not.mpr isScript.ne_nil
  rw [load_eq_readLines, text, String.toList_ofList, Text.splitOn_intercalate single
      (List.append_ne_nil_of_left_ne_nil nonempty _),
    readLines_written home (isScript.writable writable), isScript.foldl_eq]
  cases ended <;> rfl

end

/-- Settings whose words hold blanks, quotes, backslashes, equals signs and carriage returns. -/
theorem load_text_crowded :
    let settings : Settings :=
      { store := some "a b=c\\", options := { root := "", late := false }, scope := some "\r=\"",
        replacements := [(";", ""), ("\\\"", " \t")], rejections := ["x\r"] }
    let script : Script :=
      [(.joined, .reject "x\r"), (.apart, .scope (some "\r=\"")), (.joined, .replace ";" ""),
        (.joinedBare, .late false), (.apartBare, .store "a b=c\\"), (.apart, .root ""),
        (.joined, .replace "\\\"" " \t"), (.joined, .early true)]
    settings.Writable ∧ settings.IsScript script ∧
      load "/home" (text script false) = (settings, []) := by
  intro settings script
  have writable : settings.Writable := by
    refine ⟨?_, by decide, ?_, by decide, by decide⟩
    · rintro _ ⟨⟩
      decide
    · rintro _ ⟨⟩
      decide
  have isScript : settings.IsScript script := by decide +kernel
  exact ⟨writable, isScript, load_text writable isScript "/home" false⟩

end Settings

end ChatMacro
