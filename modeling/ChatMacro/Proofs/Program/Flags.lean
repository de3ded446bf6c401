import ChatMacro.Proofs.Program.Arguments
import Mathlib.Data.List.Nodup

/-!
# Written arguments

What a program is asked for can be written as flags in any order, with each value in the cluster of
its flag or behind it.  With two dashes behind the flags, it is read back whatever the values and
the templates look like.
-/

namespace ChatMacro
namespace Arguments

/-! ## Flags -/

/-- What one flag asks for. -/
inductive Flag where
  /-- Keep variables in memory only. -/
  | dryRun
  /-- Log more. -/
  | debug
  /-- Read a given settings file, or none. -/
  | settings (path : Option String)
  /-- Keep variables in a file. -/
  | store (path : String)
  /-- Expand a template first. -/
  | command (template : String)
  /-- Pass a message along. -/
  | input (message : String)
  deriving DecidableEq, Repr

/-- A flag and its value, which stands in the cluster of the flag if it is attached and not empty,
and behind it otherwise. -/
def valueWords (attached : Bool) (flag : Char) (value : String) : List String :=
  if attached && !value.isEmpty then [String.ofList ('-' :: flag :: value.toList)]
  else [String.ofList ['-', flag], value]

namespace Flag

/-- The words of a flag. -/
def words (attached : Bool) : Flag → List String
  | dryRun => ["-n"]
  | debug => ["-d"]
  | settings none => ["-f"]
  | settings (some path) => [String.ofList ('-' :: 'f' :: path.toList)]
  | store path => valueWords attached 's' path
  | command template => valueWords attached 'c' template
  | input message => valueWords attached 'i' message

/-- A flag can be written if the path of the settings file is not empty and that of the store starts
with no tilde. -/
def Writable : Flag → Prop
  | settings path => path ≠ some ""
  | store path => path.toList.head? ≠ some '~'
  | _ => True

end Flag

/-- Arguments with what a flag asks for. -/
def ask (arguments : Arguments) : Flag → Arguments
  | .dryRun => { arguments with dryRun := true }
  | .debug => { arguments with debug := true }
  | .settings path => { arguments with settings := path.elim .skip .file }
  | .store path => { arguments with store := some path }
  | .command template => { arguments with command := some template }
  | .input message => { arguments with input := some message }

/-- The path behind the flag for the settings file, if there is such a flag. -/
def settingsPath? : SettingsChoice → Option (Option String)
  | .search => none
  | .skip => some none
  | .file path => some (some path)

/-- The flags that ask for arguments. -/
def flags (arguments : Arguments) : List Flag :=
  (if arguments.dryRun then [.dryRun] else []) ++
    (if arguments.debug then [.debug] else []) ++
    (settingsPath? arguments.settings).toList.map .settings ++
    arguments.store.toList.map .store ++
    arguments.command.toList.map .command ++
    arguments.input.toList.map .input

/-! ## Reading one flag -/

section

variable {home : String} {arguments : Arguments}

theorem flags?_ofList (flag : Char) (rest : List Char) :
    flags? (String.ofList ('-' :: flag :: rest)) = some (flag :: rest) := by
  rw [flags?, String.toList_ofList]
  rfl

theorem ofList_ne_dashes {flag : Char} (notDash : flag ≠ '-') (rest : List Char) :
    String.ofList ('-' :: flag :: rest) ≠ "--" := by
  intro dashes
  have letters := congrArg String.toList dashes
  rw [String.toList_ofList] at letters
  injection letters with _ letters
  injection letters with isDash
  exact notDash isDash

/-- A flag with a value is read with this value, attached or not. -/
theorem readFrom_valueWords {flag : Char} (notDash : flag ≠ '-') (keep : String → Arguments)
    (reads : ∀ next? rest, readFlags home next? arguments (flag :: rest) =
      do let (value, taken) ← valueOf flag next? rest; return (keep value, taken))
    (attached : Bool) (value : String) (others : List String) :
    readFrom home arguments (valueWords attached flag value ++ others) =
      readFrom home (keep value) others := by
  rw [valueWords]
  split
  next inCluster =>
    have nonempty : value.toList ≠ [] := by
      simp_all
    obtain ⟨character, tail, value_eq⟩ := List.exists_cons_of_ne_nil nonempty
    refine readFrom_of_flags (ofList_ne_dashes notDash _) (flags?_ofList flag _) ?_
    rw [reads, value_eq, valueOf, ← value_eq, String.ofList_toList]
    rfl
  next =>
    refine readFrom_of_value (ofList_ne_dashes notDash _) (flags?_ofList flag _) ?_
    rw [reads]
    rfl

theorem readFlags_settings (next? : Option String) (rest : List Char) :
    readFlags home next? arguments ('f' :: rest) =
      .ok ({ arguments with settings := (settingsOf next? rest).1 }, (settingsOf next? rest).2) :=
  rfl

/-- A word that starts with a dash. -/
def IsDashed (word : String) : Prop :=
  ∃ rest, word.toList = '-' :: rest

/-- A word behind the flag is no settings file if it starts with a dash. -/
theorem settingsOf_of_dashed {next? : Option String} (dashed : ∀ next ∈ next?, IsDashed next) :
    settingsOf next? [] = (.skip, false) := by
  cases next? with
  | none => rfl
  | some next =>
      obtain ⟨rest, next_eq⟩ := dashed next rfl
      have starts : Text.startsWith ['-'] next.toList = true := by
        rw [next_eq]
        rfl
      rw [settingsOf, if_pos starts]

theorem settingsOf_of_ne_nil {rest : List Char} (nonempty : rest ≠ []) (next? : Option String) :
    settingsOf next? rest = (.file (String.ofList rest), false) := by
  cases rest with
  | nil => exact absurd rfl nonempty
  | cons character rest => rfl

/-- A flag is read whatever the arguments behind it are, as long as the first of them starts with a
dash. -/
theorem readFrom_words {flag : Flag} (writable : flag.Writable) (attached : Bool)
    {others : List String} (dashed : ∀ next ∈ others.head?, IsDashed next) :
    readFrom home arguments (flag.words attached ++ others) =
      readFrom home (arguments.ask flag) others := by
  cases flag with
  | dryRun => exact readFrom_of_flags (by decide) (flags?_ofList 'n' []) rfl
  | debug => exact readFrom_of_flags (by decide) (flags?_ofList 'd' []) rfl
  | settings path =>
      cases path with
      | none =>
          change readFrom home arguments ("-f" :: others) = _
          refine readFrom_of_flags (by decide) (flags?_ofList 'f' []) ?_
          rw [readFlags_settings, settingsOf_of_dashed dashed]
          rfl
      | some path =>
          have nonempty : path.toList ≠ [] := fun empty =>
            writable (congrArg some (String.toList_eq_nil_iff.mp empty))
          refine readFrom_of_flags (ofList_ne_dashes (by decide) _) (flags?_ofList 'f' _) ?_
          rw [readFlags_settings, settingsOf_of_ne_nil nonempty, String.ofList_toList]
          rfl
  | store path =>
      have read := @readFrom_valueWords home arguments 's' (by decide)
        (fun path => { arguments with store := some (Path.expandHome home path) })
        (fun _ _ => rfl) attached path others
      rw [Path.expandHome_of_head? writable] at read
      exact read
  | command template =>
      exact readFrom_valueWords (by decide)
        (fun template => { arguments with command := some template })
        (fun _ _ => rfl) attached template others
  | input message =>
      exact readFrom_valueWords (by decide)
        (fun message => { arguments with input := some message })
        (fun _ _ => rfl) attached message others

/-! ## Reading all flags -/

/-- The first word of a flag starts with a dash. -/
theorem dashed_words (attached : Bool) (flag : Flag) (others : List String) :
    ∀ next ∈ (flag.words attached ++ others).head?, IsDashed next := by
  have ofValue (flag : Char) (value : String) :
      ∀ next ∈ (valueWords attached flag value ++ others).head?, IsDashed next := by
    rw [valueWords]
    split <;> rintro _ ⟨⟩ <;> exact ⟨_, String.toList_ofList⟩
  cases flag with
  | dryRun | debug =>
      rintro _ ⟨⟩
      exact ⟨_, rfl⟩
  | settings path =>
      cases path <;> rintro _ ⟨⟩
      · exact ⟨_, rfl⟩
      · exact ⟨_, String.toList_ofList⟩
  | store path => exact ofValue 's' path
  | command template => exact ofValue 'c' template
  | input message => exact ofValue 'i' message

/-- The words of flags, each with its value attached or not. -/
def flagWords (written : List (Bool × Flag)) : List String :=
  written.flatMap fun flag => flag.2.words flag.1

/-- Flags before two dashes are read one after the other, and what is behind these is templates. -/
theorem readFrom_flagWords {written : List (Bool × Flag)}
    (writable : ∀ flag ∈ written, flag.2.Writable) (templates : List String) :
    readFrom home arguments (flagWords written ++ "--" :: templates) =
      let asked := (written.map Prod.snd).foldl ask arguments
      .ok { asked with templates := asked.templates ++ templates } := by
  induction written generalizing arguments with
  | nil => rfl
  | cons flag written ih =>
      obtain ⟨here, later⟩ := List.forall_mem_cons.mp writable
      have dashed : ∀ next ∈ (flagWords written ++ "--" :: templates).head?, IsDashed next := by
        cases written with
        | nil =>
            rintro _ ⟨⟩
            exact ⟨_, rfl⟩
        | cons next written =>
            rw [flagWords, List.flatMap_cons, List.append_assoc]
            exact dashed_words next.1 next.2 _
      rw [flagWords, List.flatMap_cons, List.append_assoc, ← flagWords,
        readFrom_words here flag.1 dashed, ih later]
      rfl

end

/-! ## Asking for arguments -/

/-- Flags of different kinds can change places. -/
theorem ask_comm (arguments : Arguments) {first second : Flag}
    (different : first.ctorIdx ≠ second.ctorIdx) :
    (arguments.ask first).ask second = (arguments.ask second).ask first := by
  cases first <;> cases second <;> first | rfl | exact absurd rfl different

/-- Arguments are asked for with one flag of each kind at most. -/
theorem nodup_flags (arguments : Arguments) : (arguments.flags.map Flag.ctorIdx).Nodup := by
  obtain ⟨settings, store, command, input, dryRun, debug, templates⟩ := arguments
  cases settings <;> cases store <;> cases command <;> cases input <;> cases dryRun <;>
    cases debug <;> simp [flags, settingsPath?, Flag.ctorIdx]

/-- The flags of arguments ask for these arguments. -/
theorem foldl_flags (arguments : Arguments) :
    arguments.flags.foldl ask {} = { arguments with templates := [] } := by
  obtain ⟨settings, store, command, input, dryRun, debug, templates⟩ := arguments
  cases settings <;> cases store <;> cases command <;> cases input <;> cases dryRun <;>
    cases debug <;> rfl

section

variable {arguments : Arguments} (named : arguments.settings ≠ .file "")
  (away : ∀ path ∈ arguments.store, path.toList.head? ≠ some '~')

include named away

theorem writable_of_mem_flags : ∀ flag ∈ arguments.flags, flag.Writable := by
  intro flag isIn
  cases flag with
  | settings path =>
      rintro rfl
      have isSet : settingsPath? arguments.settings = some (some "") := by simpa [flags] using isIn
      cases settings_eq : arguments.settings <;> simp_all [settingsPath?]
  | store path => exact away path (by simpa [flags] using isIn)
  | dryRun | debug | command template | input message => trivial

/-- Arguments are read back from flags in any order, each with its value attached or behind it, two
dashes, and the templates, whatever the values and the templates look like.  The template of a flag
comes before the others. -/
theorem parse_flagWords {written : List (Bool × Flag)}
    (order : (written.map Prod.snd).Perm arguments.flags) (home : String) :
    let words := flagWords written ++ "--" :: arguments.templates
    parse home words = .ok arguments ∧
      (parse home words).map allTemplates =
        .ok (arguments.command.toList ++ arguments.templates) := by
  intro words
  have writable : ∀ flag ∈ written, flag.2.Writable := fun flag isIn =>
    writable_of_mem_flags named away flag.2 (order.mem_iff.mp (List.mem_map_of_mem isIn))
  have asked : (written.map Prod.snd).foldl ask {} = { arguments with templates := [] } := by
    rw [← foldl_flags]
    refine order.foldl_eq' (fun first isFirst second isSecond other => ?_) _
    by_cases same : first.ctorIdx = second.ctorIdx
    · rw [List.inj_on_of_nodup_map arguments.nodup_flags (order.mem_iff.mp isFirst)
        (order.mem_iff.mp isSecond) same]
    · exact ask_comm other same
  have parsed : parse home words = .ok arguments := by
    rw [parse, readFrom_flagWords writable, asked]
    rfl
  exact ⟨parsed, by rw [parsed]; rfl⟩

end

/-- Values that look like flags and like dashes, and a template that does. -/
theorem parse_flagWords_dashes :
    let arguments : Arguments :=
      { settings := .file "-n", store := some "", command := some "--", input := some "-f",
        debug := true, templates := ["-d", "--"] }
    let written : List (Bool × Flag) :=
      [(false, .command "--"), (true, .settings (some "-n")), (true, .input "-f"),
        (true, .debug), (true, .store "")]
    flagWords written ++ "--" :: arguments.templates =
        ["-c", "--", "-f-n", "-i-f", "-d", "-s", "", "--", "-d", "--"] ∧
      arguments.settings ≠ .file "" ∧
      (∀ path ∈ arguments.store, path.toList.head? ≠ some '~') ∧
      (written.map Prod.snd).Perm arguments.flags ∧
      parse "/home" (flagWords written ++ "--" :: arguments.templates) = .ok arguments := by
  intro arguments written
  have named : arguments.settings ≠ .file "" := by decide
  have away : ∀ path ∈ arguments.store, path.toList.head? ≠ some '~' := by
    rintro _ ⟨⟩
    decide
  have order : (written.map Prod.snd).Perm arguments.flags := by decide +kernel
  exact ⟨by decide +kernel, named, away, order, (parse_flagWords named away order "/home").1⟩

end Arguments
end ChatMacro
