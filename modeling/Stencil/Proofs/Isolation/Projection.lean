import Mathlib.Data.List.Basic
import Stencil.Proofs.Isolation.Parts

namespace Stencil
namespace Isolation

/-!
The scan for groups as a projection: what it makes of a text, it leaves as it
is.  It copies all parts but the groups that capture, for which it writes
`(?:` (`scan_part`).  So the text that comes out ought to be made up of the
same parts, with an extension and a colon for every such group
(`Part.released`).  This has to be shown of every part, since where a part
ends, and what it is, may depend on what follows it; but as much of that as
matters stays the same: its first character, and whether it begins like a name
(`BeginsAlike`).

The main statement is `withoutCaptures?_projects`.
-/

namespace Part

/-- Whether the part is an escape, a character class or a comment. -/
def isKept : Part -> Bool
  | .escape _ => true
  | .charClass .. => true
  | .comment _ => true
  | .lineComment .. => true
  | _ => false

/-- What the scan writes for the part, again in parts: a question mark and a
colon behind the parenthesis of a group that captures, and anything else as it
is. -/
def released : Part -> List Part
  | .group => [.extension, .plain ':']
  | .namedGroup _ => [.extension, .plain ':']
  | part => [part]

end Part

def releasedAll (parts : List Part) : List Part :=
  parts.flatMap Part.released

variable {verbose : Bool} {rest text : List Char} {part : Part} {parts : List Part}

theorem Part.released_of_isKept (kept : part.isKept = true) : part.released = [part] := by
  cases part with
  | group | namedGroup => cases kept
  | _ => rfl

theorem written_released (kept : part.isKept = true) : written part.released = part.text := by
  rw [Part.released_of_isKept kept, written, List.flatMap_singleton]

theorem releasedAll_cons : releasedAll (part :: parts) = part.released ++ releasedAll parts :=
  rfl

/-! ## What the scan makes of the parts -/

theorem scan_classContent {content : List Char} (inside : IsClassContent rest content) :
    withoutCapturesFrom? verbose .inClass (content ++ rest) =
      (withoutCapturesFrom? verbose .outside rest).map (content ++ ·) := by
  induction inside with
  | closed => rfl
  | unclosed ends | cutOff ends =>
      subst ends
      rfl
  | escaped further inductiveHypothesis =>
      rw [List.cons_append, List.cons_append, withoutCapturesFrom?, inductiveHypothesis,
        Option.map_map]
      rfl
  | plain notBackslash notBracket further inductiveHypothesis =>
      rw [List.cons_append, scan_inClass notBackslash, if_neg notBracket, inductiveHypothesis,
        Option.map_map]
      rfl

/-- A class begins with as much as can belong to its beginning. -/
theorem scan_classOpening {negated bracket : Bool}
    (notBracket : bracket = false -> rest.head? ≠ some ']')
    (notCaret : bracket = false -> negated = false -> rest.head? ≠ some '^') :
    withoutCapturesFrom? verbose .outside (Part.classOpening negated bracket ++ rest) =
      (withoutCapturesFrom? verbose .inClass rest).map (Part.classOpening negated bracket ++ ·) := by
  cases bracket with
  | true =>
      cases negated with
      | false => simp [Part.classOpening, withoutCapturesFrom?]
      | true => simp [Part.classOpening, withoutCapturesFrom?]
  | false =>
      cases negated with
      | false => exact scan_bracket (notCaret rfl rfl) (notBracket rfl)
      | true => exact scan_caret (notBracket rfl)

/-- A comment is copied up to the parenthesis that ends it. -/
theorem scan_commentContent {content : List Char} (unended : ')' ∉ content) :
    withoutCapturesFrom? verbose .comment (content ++ ')' :: rest) =
      (withoutCapturesFrom? verbose .outside rest).map (content ++ [')'] ++ ·) := by
  induction content with
  | nil => rfl
  | cons character others inductiveHypothesis =>
      rw [List.mem_cons, not_or] at unended
      rw [List.cons_append, scan_comment, if_neg (Ne.symm unended.1), inductiveHypothesis unended.2,
        Option.map_map]
      rfl

/-- A comment is copied up to the end of the line, or of the text. -/
theorem scan_lineCommentContent {content : List Char} {closed : Bool} (unended : '\n' ∉ content)
    (ends : closed = false -> rest = []) :
    withoutCapturesFrom? verbose .lineComment
        (content ++ (if closed then ['\n'] else []) ++ rest) =
      (withoutCapturesFrom? verbose .outside rest).map
        (content ++ (if closed then ['\n'] else []) ++ ·) := by
  induction content with
  | nil =>
      cases closed with
      | false =>
          rw [ends rfl]
          rfl
      | true => rfl
  | cons character others inductiveHypothesis =>
      rw [List.mem_cons, not_or] at unended
      rw [List.cons_append, List.cons_append, scan_lineComment, if_neg (Ne.symm unended.1),
        inductiveHypothesis unended.2, Option.map_map]
      rfl

/-- For each part the scan writes what is released of it, and goes on with the
text that follows. -/
theorem scan_part (stands : part.StandsBefore verbose rest) :
    withoutCapturesFrom? verbose .outside (part.text ++ rest) =
      (withoutCapturesFrom? verbose .outside rest).map (written part.released ++ ·) := by
  cases part with
  | plain character =>
      rcases stands with ⟨other, noComment⟩
      simp only [List.mem_cons, List.not_mem_nil, or_false, not_or] at other
      refine (scan_outside other.1 other.2.2 other.2.1).trans ?_
      rw [noComment, if_neg Bool.false_ne_true]
      rfl
  | escape escaped =>
      cases escaped with
      | none =>
          rw [stands rfl]
          rfl
      | some character =>
          exact withoutCapturesFrom?.eq_3 verbose character rest
  | charClass negated bracket content =>
      rcases stands with ⟨inside, notBracket, notCaret⟩
      rw [← inside.head?_append] at notBracket notCaret
      rw [written_released rfl, Part.text, List.append_assoc, scan_classOpening notBracket notCaret,
        scan_classContent inside, Option.map_map]
      simp only [Function.comp_def, List.append_assoc]
  | comment content =>
      refine Eq.trans (b := (withoutCapturesFrom? verbose .comment (content ++ ')' :: rest)).map
        (['(', '?', '#'] ++ ·)) ?_ ?_
      · simp [Part.text, withoutCapturesFrom?]
      · rw [scan_commentContent stands, Option.map_map, written_released rfl]
        simp only [Part.text, Function.comp_def, List.append_assoc]
  | lineComment content closed =>
      rcases stands with ⟨rfl, unended, ends⟩
      refine (scan_outside (by decide) (by decide) (by decide)).trans ?_
      refine (congrArg (Option.map _) (scan_lineCommentContent unended ends)).trans ?_
      rw [Option.map_map, written_released rfl]
      rfl
  | extension => exact scan_extension stands.1 stands.2
  | group => exact scan_parenthesis stands
  | namedGroup name =>
      refine Eq.trans (b := (withoutCapturesFrom? verbose .groupName (name ++ '>' :: rest)).map
        (['(', '?', ':'] ++ ·)) ?_ ?_
      · simp [Part.text, withoutCapturesFrom?]
      · rw [scan_groupName stands]
        rfl

theorem withoutCaptures?_written (met : AreMet verbose parts) :
    withoutCaptures? verbose (written parts) = some (written (releasedAll parts)) := by
  induction parts with
  | nil => rfl
  | cons part rest inductiveHypothesis =>
      have further : withoutCapturesFrom? verbose .outside (written rest) = _ :=
        inductiveHypothesis met.2
      rw [written_cons, withoutCaptures?, scan_part met.1, further, releasedAll_cons, written_append]
      rfl

/-! ## The parts of what comes out
-/

theorem Part.head?_released : (written part.released).head? = part.text.head? := by
  cases part with
  | plain | extension | group | namedGroup => rfl
  | _ => rw [written_released rfl]

theorem head?_releasedAll : (written (releasedAll parts)).head? = (written parts).head? := by
  cases parts with
  | nil => rfl
  | cons part rest =>
      have filled : written part.released ≠ [] := by
        rw [ne_eq, ← List.head?_eq_none_iff, Part.head?_released, List.head?_eq_none_iff]
        exact part.text_ne_nil
      rw [releasedAll_cons, written_append, written_cons, List.head?_append_of_ne_nil _ filled,
        List.head?_append_of_ne_nil _ part.text_ne_nil, Part.head?_released]

theorem Part.eq_plain_of_head? (begins : part.text.head? = some 'P') : part = .plain 'P' := by
  cases part with
  | plain character =>
      cases begins
      rfl
  | charClass negated bracket => cases negated <;> cases bracket <;> cases begins
  | _ => cases begins

/-- The other text begins as this one does, as far as what stands before it
depends on that. -/
structure BeginsAlike (rest other : List Char) : Prop where
  head : other.head? = rest.head?
  name : ['P', '<'] <+: other -> ['P', '<'] <+: rest

theorem BeginsAlike.nil {other : List Char} (alike : BeginsAlike rest other) (ends : rest = []) :
    other = [] := by
  rw [← List.head?_eq_none_iff, alike.head, ends]
  rfl

theorem beginsAlike_releasedAll : BeginsAlike (written parts) (written (releasedAll parts)) where
  head := head?_releasedAll
  name := by
    intro begins
    have letter : (written parts).head? = some 'P' := by
      rcases begins with ⟨others, same⟩
      rw [← head?_releasedAll, ← same]
      rfl
    cases parts with
    | nil => exact begins
    | cons part rest =>
        rw [written_cons, List.head?_append_of_ne_nil _ part.text_ne_nil] at letter
        obtain rfl := Part.eq_plain_of_head? letter
        have following : ['<'] <+: written (releasedAll rest) := (List.cons_prefix_cons.mp begins).2
        rw [List.singleton_prefix_iff_head?_eq_some, head?_releasedAll,
          ← List.singleton_prefix_iff_head?_eq_some] at following
        exact List.cons_prefix_cons.mpr ⟨rfl, following⟩

theorem IsClassContent.before {other content : List Char} (inside : IsClassContent rest content)
    (ends : rest = [] -> other = []) : IsClassContent other content := by
  induction inside with
  | closed => exact .closed
  | unclosed nothing => exact .unclosed (ends nothing)
  | cutOff nothing => exact .cutOff (ends nothing)
  | escaped _ further => exact .escaped further
  | plain notBackslash notBracket _ further => exact .plain notBackslash notBracket further

/-- A part that is kept or begins nothing is still met when what follows
begins alike. -/
theorem Part.StandsBefore.before {other : List Char} (stands : part.StandsBefore verbose rest)
    (alike : BeginsAlike rest other) : part.StandsBefore verbose other := by
  cases part with
  | plain => exact stands
  | escape => exact fun missing => alike.nil (stands missing)
  | charClass => exact ⟨stands.1.before alike.nil, stands.2⟩
  | comment => exact stands
  | lineComment => exact ⟨stands.1, stands.2.1, fun unclosed => alike.nil (stands.2.2 unclosed)⟩
  | extension => exact ⟨alike.head ▸ stands.1, fun begins => stands.2 (alike.name begins)⟩
  | group => exact fun begins => stands (alike.head ▸ begins)
  | namedGroup => exact stands

theorem areMet_nonCapturing (met : AreMet verbose parts) :
    AreMet verbose (.extension :: .plain ':' :: parts) := by
  have notComment : some ':' ≠ some '#' := by
    decide
  have notName : ¬ ['P', '<'] <+: ':' :: written parts := fun begins =>
    absurd (List.cons_prefix_cons.mp begins).1 (by decide)
  exact ⟨⟨notComment, notName⟩, ⟨by decide, Bool.and_false _⟩, met⟩

/-- The scan meets the released parts in what it has written for the parts.
Hence scanning again changes nothing. -/
theorem areMet_releasedAll (met : AreMet verbose parts) : AreMet verbose (releasedAll parts) := by
  induction parts with
  | nil => exact met
  | cons part rest inductiveHypothesis =>
      have further := inductiveHypothesis met.2
      have stands := met.1.before beginsAlike_releasedAll
      cases part with
      | group | namedGroup => exact areMet_nonCapturing further
      | _ => exact ⟨stands, further⟩

/-! ## The projection
-/

/-- The one text consists of these parts and no others, and the second text of
what is released of them and of nothing else.  So all escapes, classes and
comments are still there and in their order, and any other parenthesis is
followed by a question mark and begins no name. -/
structure Releases (verbose : Bool) (text released : List Char) (parts : List Part) : Prop where
  meets : Meets verbose text parts
  unique : forall others, Meets verbose text others -> others = parts
  meetsAgain : Meets verbose released (releasedAll parts)
  uniqueAgain : forall others, Meets verbose released others -> others = releasedAll parts
  kept : (releasedAll parts).filter Part.isKept = parts.filter Part.isKept
  opens : forall front part back, releasedAll parts = front ++ part :: back ->
    part.isKept = false -> '(' ∈ part.text ->
    ∃ others, part.text ++ written back = '(' :: '?' :: others ∧ ¬ ['P', '<'] <+: others

/-- Of the parts that are released, only an extension has a parenthesis that
is not in a kept part. -/
theorem eq_extension_of_mem_releasedAll (stands : part.StandsBefore verbose rest)
    (member : part ∈ releasedAll parts) (other : part.isKept = false)
    (parenthesis : '(' ∈ part.text) : part = .extension := by
  rcases List.mem_flatMap.mp member with ⟨source, _, origin⟩
  cases part with
  | plain character =>
      obtain rfl := List.mem_singleton.mp parenthesis
      exact absurd (by decide) stands.1
  | extension => rfl
  | group | namedGroup => cases source <;> simp [Part.released] at origin
  | _ => cases other

theorem releasedAll_releasedAll : releasedAll (releasedAll parts) = releasedAll parts := by
  induction parts with
  | nil => rfl
  | cons part rest inductiveHypothesis =>
      have same : releasedAll part.released = part.released := by
        cases part <;> rfl
      have split : releasedAll (part.released ++ releasedAll rest) =
          releasedAll part.released ++ releasedAll (releasedAll rest) := List.flatMap_append
      rw [releasedAll_cons, split, same, inductiveHypothesis]

theorem filter_isKept_released : part.released.filter Part.isKept = [part].filter Part.isKept := by
  cases part <;> rfl

theorem filter_isKept_releasedAll :
    (releasedAll parts).filter Part.isKept = parts.filter Part.isKept := by
  induction parts with
  | nil => rfl
  | cons part rest inductiveHypothesis =>
      rw [releasedAll_cons, List.filter_append, filter_isKept_released, inductiveHypothesis,
        ← List.filter_append, List.singleton_append]

/-- The scan for groups is a projection: from a text that it gets through, it
makes one that it gets through again and leaves as it is.  It does so for
every text, whether or not it is an expression: the text consists of parts in
one way only, and what comes out consists of the same parts in the same order,
but for the groups that capture, each of which has become an extension and a
colon. -/
theorem withoutCaptures?_projects {released : List Char}
    (done : withoutCaptures? verbose text = some released) :
    withoutCaptures? verbose released = some released ∧
      ∃ parts, Releases verbose text released parts := by
  have through : (withoutCapturesFrom? verbose .outside text).isSome = true :=
    Option.isSome_iff_exists.mpr ⟨released, done⟩
  rcases continues_of_scan through with ⟨parts, met, rfl⟩
  obtain rfl := Option.some.inj ((withoutCaptures?_written met).symm.trans done)
  have metAgain := areMet_releasedAll met
  refine ⟨?_, parts, ⟨met, rfl⟩, fun others meets => meets.unique ⟨met, rfl⟩, ⟨metAgain, rfl⟩,
    fun others meets => meets.unique ⟨metAgain, rfl⟩, filter_isKept_releasedAll, ?_⟩
  · rw [withoutCaptures?_written metAgain, releasedAll_releasedAll]
  · intro front part back listed other parenthesis
    have stands := (listed ▸ metAgain).stands
    obtain rfl := eq_extension_of_mem_releasedAll stands
      (listed ▸ List.mem_append_right front List.mem_cons_self) other parenthesis
    exact ⟨written back, rfl, stands.2⟩

/-- A text with groups and with parentheses in an escape, in classes and in
comments. -/
def groupsExample : List Char :=
  "(a[](])\\((?P<n(>b#(\n)(?#()(?:c)[^](".toList

def groupsExampleReleased : List Char :=
  "(?:a[](])\\((?:b#(\n)(?#()(?:c)[^](".toList

theorem withoutCaptures?_projects_groupsExample :
    withoutCaptures? true groupsExample = some groupsExampleReleased ∧
      withoutCaptures? true groupsExampleReleased = some groupsExampleReleased ∧
      ∃ parts, Releases true groupsExample groupsExampleReleased parts := by
  have done : withoutCaptures? true groupsExample = some groupsExampleReleased := by
    decide +kernel
  exact ⟨done, withoutCaptures?_projects done⟩

end Isolation
end Stencil
