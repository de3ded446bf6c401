import ChatMacro.Program.Arguments

/-!
# Arguments behind two dashes

Two dashes end the flags of a program, unless they are the value of a flag.  Behind flags that can
be read by themselves, the flags are read the same, and all the rest are templates.
-/

namespace ChatMacro
namespace Arguments

/-- Two dashes end the flags if the arguments before them can be read by themselves, so that the
dashes are not the value of a flag. -/
def Terminated (home : String) (words : List String) : Prop :=
  ∃ position < words.length,
    words[position]? = some "--" ∧ (parse home (words.take position)).isOk = true

instance (home : String) (words : List String) : Decidable (Terminated home words) :=
  inferInstanceAs (Decidable (∃ position < words.length,
    words[position]? = some "--" ∧ (parse home (words.take position)).isOk = true))

section

variable {home : String} {arguments read : Arguments}

theorem settingsOf_dashes (rest : List Char) :
    settingsOf (some "--") rest = settingsOf none rest := by
  cases rest <;> rfl

theorem settingsOf_none (rest : List Char) : (settingsOf none rest).2 = false := by
  cases rest <;> rfl

/-- A value that is found at the end of the arguments is in the cluster of its flag. -/
theorem valueOf_none_iff (flag : Char) (rest : List Char) (keep : String → Arguments)
    (taken : Bool) :
    (do let (value, taken) ← valueOf flag none rest; return (keep value, taken)) =
        Except.ok (read, taken) ↔
      taken = false ∧
        (do let (value, taken) ← valueOf flag (some "--") rest; return (keep value, taken)) =
          Except.ok (read, false) := by
  cases rest <;> simp [valueOf, bind, Except.bind, pure, Except.pure, and_comm]

/-- At the end of the arguments a cluster is read as before two dashes, which it may not take. -/
theorem readFlags_none_iff {flags : List Char} {taken : Bool} :
    readFlags home none arguments flags = .ok (read, taken) ↔
      taken = false ∧ readFlags home (some "--") arguments flags = .ok (read, false) := by
  induction flags generalizing arguments with
  | nil => simp [readFlags, and_comm]
  | cons flag rest ih =>
      simp only [readFlags, settingsOf_dashes]
      split
      · exact ih
      split
      · exact ih
      split
      · simp [settingsOf_none, and_comm]
      split
      · exact valueOf_none_iff flag rest (fun value => { arguments with command := some value })
          taken
      split
      · exact valueOf_none_iff flag rest (fun value => { arguments with input := some value }) taken
      split
      · exact valueOf_none_iff flag rest
          (fun value => { arguments with store := some (Path.expandHome home value) }) taken
      · simp

/-- A cluster that takes no argument is read the same if the arguments behind it end at two
dashes. -/
theorem readFlags_front {flags : List Char} {front back : List String}
    (left : readFlags home (front ++ "--" :: back).head? arguments flags = .ok (read, false)) :
    readFlags home front.head? arguments flags = .ok (read, false) := by
  cases front with
  | nil => exact readFlags_none_iff.mpr ⟨rfl, left⟩
  | cons next front => exact left

/-- A cluster that takes no argument is read the same if two dashes follow the arguments behind
it. -/
theorem readFlags_append_dashes {flags : List Char} {others : List String}
    (left : readFlags home others.head? arguments flags = .ok (read, false))
    (templates : List String) :
    readFlags home (others ++ "--" :: templates).head? arguments flags = .ok (read, false) := by
  cases others with
  | nil => exact (readFlags_none_iff.mp left).2
  | cons next others => exact left

/-! ## One argument -/

section

variable {word : String} {others : List String} (named : word ≠ "--")

include named

theorem readFrom_of_no_flags (noFlags : flags? word = none) :
    readFrom home arguments (word :: others) =
      readFrom home { arguments with templates := arguments.templates ++ [word] } others := by
  rw [readFrom, if_neg named, noFlags]

theorem readFrom_of_flags {flags : List Char} {changed : Arguments}
    (isCluster : flags? word = some flags)
    (left : readFlags home others.head? arguments flags = .ok (changed, false)) :
    readFrom home arguments (word :: others) = readFrom home changed others := by
  rw [readFrom, if_neg named, isCluster]
  dsimp only
  rw [left]

theorem readFrom_of_value {flags : List Char} {changed : Arguments} {value : String}
    (isCluster : flags? word = some flags)
    (took : readFlags home (some value) arguments flags = .ok (changed, true)) :
    readFrom home arguments (word :: value :: others) = readFrom home changed others := by
  rw [readFrom, if_neg named, isCluster, List.head?_cons]
  dsimp only
  rw [took]

end

/-! ## All arguments -/

/-- Flags that can be read by themselves are read the same before two dashes, and everything behind
these is a template. -/
theorem readFrom_append_dashes {words : List String}
    (parsed : readFrom home arguments words = .ok read)
    (unterminated : ∀ front back, words = front ++ "--" :: back →
      (readFrom home arguments front).isOk = false) (templates : List String) :
    readFrom home arguments (words ++ "--" :: templates) =
      .ok { read with templates := read.templates ++ templates } := by
  fun_induction readFrom home arguments words with
  | case1 arguments =>
      cases parsed
      simp [readFrom]
  | case2 arguments others =>
      -- The dashes themselves would end the flags.
      exact absurd (unterminated [] others rfl) (by simp [readFrom, Except.isOk, Except.toBool])
  | case3 arguments word others named noFlags ih =>
      rw [List.cons_append, readFrom_of_no_flags named noFlags]
      refine ih parsed fun front back split => ?_
      have shorter := unterminated (word :: front) back (congrArg (word :: ·) split)
      rwa [readFrom_of_no_flags named noFlags] at shorter
  | case4 => cases parsed
  | case5 arguments word others named flags isCluster changed left ih =>
      rw [List.cons_append, readFrom_of_flags named isCluster (readFlags_append_dashes left _)]
      refine ih parsed fun front back split => ?_
      have shorter := unterminated (word :: front) back (congrArg (word :: ·) split)
      rwa [readFrom_of_flags named isCluster (readFlags_front (split ▸ left))] at shorter
  | case6 arguments word named flags isCluster changed took =>
      exact absurd (readFlags_none_iff.mp took).1 (by decide)
  | case7 arguments word named flags isCluster changed value others took ih =>
      rw [List.cons_append, List.cons_append, readFrom_of_value named isCluster took]
      refine ih parsed fun front back split => ?_
      have shorter := unterminated (word :: value :: front) back
        (congrArg (word :: value :: ·) split)
      rwa [readFrom_of_value named isCluster took] at shorter

/-- Dashes behind a bare flag for the settings end the flags, but not behind one that takes a
value. -/
example : Terminated "/home" ["-f", "--", "-n"] ∧ ¬ Terminated "/home" ["-s", "--", "-n"] := by
  decide +kernel

/-- Flags that can be read by themselves and are not ended can be followed by two dashes and
templates. -/
theorem parse_append_dashes {words : List String} (parsed : parse home words = .ok read)
    (unterminated : ¬ Terminated home words) (templates : List String) :
    parse home (words ++ "--" :: templates) =
      .ok { read with templates := read.templates ++ templates } := by
  refine readFrom_append_dashes parsed (fun front back split => ?_) templates
  subst split
  exact Bool.eq_false_iff.mpr fun ended =>
    unterminated ⟨front.length, by simp, by simp, by simpa [parse] using ended⟩

end

end Arguments
end ChatMacro
