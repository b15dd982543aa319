import Stencil.Proofs.Reading.Comments

namespace Stencil
namespace Regex

/-!
Flags for the whole expression.  Once some have been set they stay set, and a
group of flags is never empty.  So an expression for which no flags are set in
the end has no such group in it.
-/

namespace Flags

theorem union_assoc (first second third : Flags) :
    (first.union second).union third = first.union (second.union third) := by
  simp only [union, Bool.or_assoc]

theorem union_none (flags : Flags) : flags.union {} = flags := by
  simp only [union, Bool.or_false]

theorem none_union (flags : Flags) : Flags.union {} flags = flags := by
  simp only [union, Bool.false_or]

theorem eq_none_of_union {first second : Flags} (empty : first.union second = {}) :
    first = {} ∧ second = {} := by
  rcases first with ⟨_, _, _, _, _, _, _⟩
  rcases second with ⟨_, _, _, _, _, _, _⟩
  simp only [union, mk.injEq, Bool.or_eq_false_iff] at empty ⊢
  grind

theorem ofLetter?_ne_none {letter : Char} {flags : Flags} (named : ofLetter? letter = some flags) :
    flags ≠ {} := by
  unfold ofLetter? at named
  split at named <;> cases named <;> decide

end Flags

theorem Opening.turnOn_ne_none {added all : Flags} {letter : Char} {stop : Nat}
    (done : turnOn added letter stop = .ok all) : all ≠ {} := by
  unfold turnOn at done
  split at done
  · cases done
  · rename_i flag named
    dsimp only at done
    split at done
    · cases done
    · cases done
      exact fun empty => Flags.ofLetter?_ne_none named (Flags.eq_none_of_union empty).2

namespace Assembly

theorem flags_noteCondition (assembly : Assembly) (group position : Nat) :
    (assembly.noteCondition group position).flags = assembly.flags := by
  unfold noteCondition
  split <;> rfl

/-- A change takes no flags back, so those that are set for the whole only
become more. -/
theorem Changes.exists_union {first second : Assembly} (changes : first.Changes second) :
    ∃ more, second.flags = first.flags.union more := by
  have kept : second.flags = first.flags -> ∃ more, second.flags = first.flags.union more :=
    fun same => ⟨{}, same.trans (Flags.union_none _).symm⟩
  cases changes with
  | push item => exact kept rfl
  | repeatLast mode low high => exact kept (first.sameNotes_repeatLast _ _ _).flags.symm
  | openGroup start verbose _ => exact kept rfl
  | openCapture done =>
      rcases openCapture_eq_ok done with rfl
      exact kept rfl
  | openLook behind negated start => exact kept (first.sameNotes_openLook _ _ _).flags.symm
  | noteCondition position _ => exact kept (first.flags_noteCondition _ _)
  | nextBranch => exact kept rfl
  | close => exact kept first.flags_close
  | setFlags added => exact ⟨added, rfl⟩

theorem Becomes.exists_union {first second : Assembly} (becomes : first.Becomes second) :
    ∃ more, second.flags = first.flags.union more := by
  induction becomes with
  | refl => exact ⟨{}, (Flags.union_none _).symm⟩
  | tail _ last inductiveHypothesis =>
      rcases inductiveHypothesis with ⟨earlier, same⟩
      rcases last.exists_union with ⟨later, further⟩
      exact ⟨earlier.union later, by rw [further, same, Flags.union_assoc]⟩

theorem Becomes.flags_ne_none {first second : Assembly} (becomes : first.Becomes second)
    (flagged : first.flags ≠ {}) : second.flags ≠ {} := by
  rcases becomes.exists_union with ⟨more, same⟩
  exact fun empty => flagged (Flags.eq_none_of_union (same.symm.trans empty)).1

end Assembly

def Opening.SetsSome : Opening ⊕ Opened -> Prop
  | .inl (.flagsOn added) => added ≠ {}
  | _ => True

def Mode.SetsSome : Mode -> Prop
  | .opening _ begun => Opening.SetsSome (.inl begun)
  | _ => True

theorem Opening.setsSome_take (opening : Opening) (token : Token) (stop : Nat) :
    (opening.take token stop).Yields Opening.SetsSome := by
  have turned (begun : Flags) : ((turnOn begun token.character stop).map fun all =>
      (.inl (.flagsOn all) : Opening ⊕ Opened)).Yields Opening.SetsSome := by
    intro _ done
    rcases Except.map_eq_ok_iff.mp done with ⟨all, turns, rfl⟩
    exact turnOn_ne_none turns
  cases opening with
  | parenthesis => exact .ok trivial
  | question =>
      refine .ite (fun _ => .ok trivial) (.ite (fun _ => .ok trivial) ?_)
      refine .ite (fun _ => .ok trivial) (.ite (fun _ => .ok trivial) ?_)
      refine .ite (fun _ => .ok trivial) (.ite (fun _ => .ok trivial) ?_)
      refine .ite (fun _ => .ok trivial) (.ite (fun _ => .ok trivial) ?_)
      refine .ite (fun _ => .ok trivial) ?_
      exact .ite (fun _ => turned {}) .error
  | extension => exact .ite (fun _ => .ok trivial) (.ite (fun _ => .ok trivial) .error)
  | groupName characters => exact .ite (fun _ => .map fun _ => trivial) (.ok trivial)
  | referenceName characters => exact .ite (fun _ => .map fun _ => trivial) (.ok trivial)
  | conditionName characters => exact .ite (fun _ => .map fun _ => trivial) (.ok trivial)
  | angle => exact .ite (fun _ => .ok trivial) (.ite (fun _ => .ok trivial) .error)
  | flagsOn added =>
      refine .ite (fun _ => .ok trivial) (.ite (fun _ => ?_) (.ite (fun _ => turned added) .error))
      exact .ite (fun _ => .error) (.ite (fun _ => .ok trivial) (.ok trivial))
  | flagsOff added removed begun =>
      refine .ite (fun _ => ?_) (.ite (fun _ => .map fun _ => trivial) .error)
      exact .ite (fun _ => .error) (.ite (fun _ => .error) (.ok trivial))

theorem Mode.setsSome_of_isBegun {mode : Mode} (begun : mode.isBegun = true) : mode.SetsSome := by
  cases mode with
  | opening start opening =>
      cases opening with
      | flagsOn added => cases begun
      | _ => trivial
  | _ => trivial

theorem Mode.setsSome_of_isComment {mode : Mode} (comment : mode.isComment = true) :
    mode.SetsSome := by
  cases mode with
  | opening start opening => cases comment
  | _ => trivial

namespace Reading

variable {reading settled later : Reading} {token : Token}

/-- Whether the token, which the reading has settled for, sets flags for the
whole expression. -/
def setsFlags (settled : Reading) (token : Token) : Bool :=
  match settled.mode with
  | .opening _ (.flagsOn _) => token.is ')'
  | _ => false

/-- Flags for the whole expression are set where their letters have been read
and the group closes. -/
theorem mode_of_setsFlags (completing : reading.complete (some token) = .ok settled)
    (sets : settled.setsFlags token = true) :
    ∃ start added, reading.mode = .opening start (.flagsOn added) ∧ token.is ')' = true := by
  unfold setsFlags at sets
  split at sets
  · rename_i start added opening
    refine ⟨start, added, ?_, sets⟩
    rcases mode_complete completing with rfl | same | ⟨_, _, same⟩
    · exact opening
    · cases opening.symm.trans same
    · cases opening.symm.trans same
  · cases sets

theorem take_flags {start : Nat} {added : Flags}
    (begins : reading.mode = .opening start (.flagsOn added)) (closes : token.is ')' = true) :
    reading.take token =
      if reading.assembly.isAtStart then
        .ok ⟨reading.position + token.length, .item, reading.assembly.setFlags added⟩
      else
        .error (.invalid .misplacedGlobalFlags (some start)) := by
  rcases reading with ⟨position, mode, assembly⟩
  cases begins
  have settles : take ⟨position, .opening start (.flagsOn added), assembly⟩ token =
      takeSettled ⟨position, .opening start (.flagsOn added), assembly⟩ token := rfl
  rw [settles]
  simp only [takeSettled, Opening.take, Opening.takeFlagOn, closes, if_true]
  rfl

theorem setsSome_takeSettled (done : reading.takeSettled token = .ok later) :
    later.mode.SetsSome := by
  rcases mode_takeSettled done with
    begun | ⟨comment, same, _⟩ | ⟨_, _, comment⟩ | ⟨_, opening, further, _, _, taken, same⟩
  · exact Mode.setsSome_of_isBegun begun
  · exact same.symm ▸ Mode.setsSome_of_isComment comment
  · exact Mode.setsSome_of_isComment comment
  · rw [same]
    exact opening.setsSome_take _ _ _ taken

theorem setsSome_complete (setsSome : reading.mode.SetsSome) {next : Option Token}
    (done : reading.complete next = .ok later) : later.mode.SetsSome := by
  rcases mode_complete done with rfl | same | ⟨_, _, same⟩
  · exact setsSome
  · rw [same]
    trivial
  · rw [same]
    trivial

theorem setsSome_take (done : reading.take token = .ok later) : later.mode.SetsSome := by
  rcases take_eq_ok_iff.mp done with ⟨settled, _, taken⟩
  exact setsSome_takeSettled taken

/-- A token that sets flags sets some, so that an expression that has none in
the end has never met one. -/
theorem flags_ne_none_of_setsFlags (setsSome : settled.mode.SetsSome)
    (sets : settled.setsFlags token = true) (done : settled.takeSettled token = .ok later) :
    later.assembly.flags ≠ {} := by
  rcases settled with ⟨position, mode, assembly⟩
  unfold setsFlags at sets
  split at sets
  · rename_i start added same
    dsimp only at same setsSome
    subst same
    simp only [takeSettled, Opening.take, Opening.takeFlagOn, sets, if_true, bind, Except.bind,
      takeOpened] at done
    split at done
    · cases done
      exact fun empty => setsSome (Flags.eq_none_of_union empty).2
    · cases done
  · cases sets

end Reading
end Regex
end Stencil
