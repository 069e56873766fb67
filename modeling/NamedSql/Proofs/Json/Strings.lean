import NamedSql.Json.Parser

/-!
# Strings which text denotes

A string is shorter than any text which denotes it: its literal has quotes around it, and
embedded text has an object around it.  No string is therefore denoted by itself.
-/

namespace NamedSql.Json

/-! ## Lexemes -/

/-- The body of a string is not shorter than what it denotes. -/
theorem length_unescape {body text : List Char} (denotes : unescape body = some text) :
    text.length ≤ body.length := by
  fun_induction unescape body generalizing text with
  | case1 =>
      cases denotes
      exact Nat.le_refl 0
  | case2 a b c d rest paired alone =>
      obtain ⟨unit, _, denotes⟩ := Option.bind_eq_some_iff.mp denotes
      split at denotes
      · split at denotes
        · obtain ⟨low, _, denotes⟩ := Option.bind_eq_some_iff.mp denotes
          split at denotes
          · obtain ⟨other, found, rfl⟩ := Option.map_eq_some_iff.mp denotes
            have := paired found
            simp only [List.length_cons] at this ⊢
            omega
          · cases denotes
        · cases denotes
      · split at denotes
        · cases denotes
        · obtain ⟨other, found, rfl⟩ := Option.map_eq_some_iff.mp denotes
          have := alone found
          simp only [List.length_cons] at this ⊢
          omega
  | case3 c rest _ inductionHypothesis =>
      obtain ⟨letter, _, denotes⟩ := Option.bind_eq_some_iff.mp denotes
      obtain ⟨other, found, rfl⟩ := Option.map_eq_some_iff.mp denotes
      have := inductionHypothesis found
      simp only [List.length_cons] at this ⊢
      omega
  | case4 c rest _ _ inductionHypothesis =>
      obtain ⟨other, found, rfl⟩ := Option.map_eq_some_iff.mp denotes
      exact Nat.succ_le_succ (inductionHypothesis found)

/-- A string takes up its body and a quote at either end. -/
theorem length_of_stringBody {text body after : List Char}
    (found : stringBody text = some (body, after)) :
    body.length + 1 + after.length = text.length := by
  fun_induction stringBody text generalizing body with
  | case1 => cases found
  | case2 rest =>
      cases found
      simp only [List.length_cons, List.length_nil]
      omega
  | case3 c rest inductionHypothesis =>
      obtain ⟨⟨inner, remaining⟩, foundInner, same⟩ := Option.map_eq_some_iff.mp found
      cases same
      have := inductionHypothesis foundInner
      simp only [List.length_cons]
      omega
  | case4 c rest _ _ inductionHypothesis =>
      obtain ⟨⟨inner, remaining⟩, foundInner, same⟩ := Option.map_eq_some_iff.mp found
      cases same
      have := inductionHypothesis foundInner
      simp only [List.length_cons]
      omega

/-- A string which fits between quotes within text of the given length. -/
def Fits (size : Nat) (text : String) : Prop :=
  text.toList.length + 2 ≤ size

/-- The text which a lexeme denotes, if it denotes one. -/
def Lexeme.text? : Lexeme → Option String
  | .string value => value
  | .scalar value => value.bind toText?
  | _ => none

/-- Numbers denote no text. -/
theorem Numeral.toText?_value? (numeral : Numeral) : numeral.value?.bind toText? = none := by
  have double (decimal : Decimal) : (decimal.toDouble?.map Json.double).bind toText? = none := by
    cases decimal.toDouble? <;> rfl
  have integer (negative : Bool) (n : Nat) : (integer? negative n).bind toText? = none := by
    unfold integer?
    split <;> split <;> rfl
  unfold Numeral.value?
  split
  · cases whole : integer? numeral.negative (Text.digitsValue numeral.whole) with
    | none => exact double _
    | some value =>
        have := integer numeral.negative (Text.digitsValue numeral.whole)
        rwa [whole] at this
  · exact double _

/-- Words denote no text. -/
theorem toText?_word? {word : List Char} {value : Json} (denotes : word? word = some value) :
    value.toText? = none := by
  unfold word? at denotes
  split at denotes
  · cases denotes
    rfl
  · split at denotes
    · cases denotes
      rfl
    · split at denotes
      · cases denotes
        rfl
      · cases denotes

/-- The texts which lexemes denote fit in the text which they were found in. -/
theorem fits_of_lexFrom {size : Nat} {found lexemes : List Lexeme} {text : List Char}
    (divided : lexFrom found text = some lexemes) (within : text.length ≤ size)
    (earlier : ∀ lexeme ∈ found, ∀ value, lexeme.text? = some value → Fits size value) :
    ∀ lexeme ∈ lexemes, ∀ value, lexeme.text? = some value → Fits size value := by
  fun_induction lexFrom found text with
  | case1 found =>
      cases divided
      intro lexeme among
      exact earlier lexeme (List.mem_reverse.mp among)
  | case2 found mark text _ inductionHypothesis =>
      exact inductionHypothesis divided (Nat.le_of_succ_le within) earlier
  | case3 found mark text _ lexeme punctuation inductionHypothesis =>
      apply inductionHypothesis divided (Nat.le_of_succ_le within)
      intro other among value denotes
      rcases List.mem_cons.mp among with rfl | before
      · unfold Lexeme.ofPunctuation? at punctuation
        split at punctuation <;> cases punctuation <;> cases denotes
      · exact earlier other before value denotes
  | case4 => cases divided
  | case5 found text body after closed _ _ _ _ inductionHypothesis =>
      have length := length_of_stringBody closed
      rw [List.length_cons] at within
      apply inductionHypothesis divided (by omega)
      intro other among value denotes
      rcases List.mem_cons.mp among with rfl | before
      · obtain ⟨denoted, unescaped, rfl⟩ := Option.map_eq_some_iff.mp denotes
        have := length_unescape unescaped
        rw [Fits, String.toList_ofList]
        omega
      · exact earlier other before value denotes
  | case6 => cases divided
  | case7 => cases divided
  | case8 found mark text _ _ _ shorter lexeme value read inductionHypothesis =>
      rw [List.length_cons] at within
      apply inductionHypothesis divided (by omega)
      intro other among text denotes
      rcases List.mem_cons.mp among with rfl | before
      · rw [Lexeme.text?] at denotes
        split at read
        · obtain ⟨numeral, _, rfl⟩ := Option.map_eq_some_iff.mp read
          exact nomatch (numeral.toText?_value?).symm.trans denotes
        · obtain ⟨word, found, rfl⟩ := Option.map_eq_some_iff.mp read
          exact nomatch (toText?_word? found).symm.trans denotes
      · exact earlier other before text denotes

/-! ## Readings -/

/-- The texts of items fit. -/
def ItemsFit (size : Nat) (members : List (Option String × Raw)) : Prop :=
  ∀ member ∈ members, ∀ text, member.2.text? = some text → Fits size text

/-- The text of what was read fits, and so do the texts which its members have. -/
structure Raw.TextsFit (size : Nat) (raw : Raw) : Prop where
  own : ∀ text, raw.text? = some text → Fits size text
  members : ∀ members, raw = .obj members → ItemsFit size members

/-- The texts of the members read so far fit. -/
def Frame.TextsFit (size : Nat) : Frame → Prop
  | .array _ => True
  | .object members | .member members _ => ItemsFit size members

/-- All texts read so far fit. -/
structure Reading.TextsFit (size : Nat) (reading : Reading) : Prop where
  value : ∀ value, reading.expected = .next value → value.TextsFit size
  frames : ∀ frame ∈ reading.frames, frame.TextsFit size

theorem Raw.textsFit_scalar {size : Nat} {value : Option Json}
    (fits : ∀ text, value.bind toText? = some text → Fits size text) :
    Raw.TextsFit size (.scalar value) := by
  constructor
  · intro text same
    apply fits
    cases value with
    | none => cases same
    | some value => cases value <;> cases same; rfl
  · intro members same
    cases same

theorem Raw.textsFit_text {size : Nat} {text : Option String}
    (fits : ∀ value, text = some value → Fits size value) :
    Raw.TextsFit size (.scalar (text.map .str)) := by
  apply Raw.textsFit_scalar
  cases text with
  | none =>
      intro value absent
      cases absent
  | some text => exact fits

theorem Raw.textsFit_arr {size : Nat} (items : List Raw) : Raw.TextsFit size (.arr items) := by
  constructor
  · intro text same
    cases same
  · intro members same
    cases same

theorem Raw.textsFit_obj {size : Nat} {members : List (Option String × Raw)}
    (fit : ItemsFit size members) : Raw.TextsFit size (.obj members) := by
  constructor
  · intro text same
    cases same
  · rintro _ ⟨⟩
    exact fit

theorem ItemsFit.cons {size : Nat} {members : List (Option String × Raw)} {value : Raw}
    (fit : ItemsFit size members) (own : value.TextsFit size) (name : Option String) :
    ItemsFit size ((name, value) :: members) := by
  intro member among
  rcases List.mem_cons.mp among with rfl | before
  · exact own.own
  · exact fit member before

theorem ItemsFit.reverse {size : Nat} {members : List (Option String × Raw)}
    (fit : ItemsFit size members) : ItemsFit size members.reverse :=
  fun member among => fit member (List.mem_reverse.mp among)

/-- What waits for a next lexeme after no value has only the texts of its frames. -/
theorem Reading.textsFit_of_frames {size : Nat} {expected : Expected} {frames : List Frame}
    (noValue : ∀ value, expected ≠ .next value)
    (fit : ∀ frame ∈ frames, frame.TextsFit size) :
    Reading.TextsFit size ⟨expected, frames⟩ :=
  ⟨fun value same => absurd same (noValue value), fit⟩

theorem Reading.textsFit_next {size : Nat} {value : Raw} {frames : List Frame}
    (own : value.TextsFit size) (fit : ∀ frame ∈ frames, frame.TextsFit size) :
    Reading.TextsFit size ⟨.next value, frames⟩ := by
  constructor
  · rintro _ ⟨⟩
    exact own
  · exact fit

/-- Reading one lexeme whose text fits keeps all texts fitting. -/
theorem Reading.TextsFit.step {size : Nat} {reading next : Reading} {lexeme : Lexeme}
    (fit : reading.TextsFit size) (own : ∀ text, lexeme.text? = some text → Fits size text)
    (stepped : reading.step lexeme = some next) : next.TextsFit size := by
  rcases reading with ⟨expected, frames⟩
  unfold Reading.step at stepped
  split at stepped
  -- a scalar or a string is a value
  · cases stepped
    exact textsFit_next (Raw.textsFit_scalar own) fit.frames
  · cases stepped
    exact textsFit_next (Raw.textsFit_scalar own) fit.frames
  · cases stepped
    exact textsFit_next (Raw.textsFit_text own) fit.frames
  · cases stepped
    exact textsFit_next (Raw.textsFit_text own) fit.frames
  -- an array or object is opened
  · cases stepped
    exact textsFit_of_frames nofun (List.forall_mem_cons.mpr ⟨trivial, fit.frames⟩)
  · cases stepped
    exact textsFit_of_frames nofun (List.forall_mem_cons.mpr ⟨trivial, fit.frames⟩)
  · cases stepped
    exact textsFit_of_frames nofun (List.forall_mem_cons.mpr ⟨nofun, fit.frames⟩)
  · cases stepped
    exact textsFit_of_frames nofun (List.forall_mem_cons.mpr ⟨nofun, fit.frames⟩)
  -- an empty one is closed
  · next _ same =>
    cases stepped
    cases same
    exact textsFit_next (Raw.textsFit_arr _) (List.forall_mem_cons.mp fit.frames).2
  · next _ same =>
    cases stepped
    cases same
    obtain ⟨here, others⟩ := List.forall_mem_cons.mp fit.frames
    exact textsFit_next (Raw.textsFit_obj (ItemsFit.reverse here)) others
  -- a name, and its colon
  · cases stepped
    exact textsFit_of_frames nofun fit.frames
  · cases stepped
    exact textsFit_of_frames nofun fit.frames
  · next _ same =>
    cases stepped
    cases same
    obtain ⟨here, others⟩ := List.forall_mem_cons.mp fit.frames
    exact textsFit_of_frames nofun (List.forall_mem_cons.mpr ⟨here, others⟩)
  -- a value goes into its array or object, which goes on or is closed
  · next _ same =>
    cases stepped
    cases same
    obtain ⟨_, others⟩ := List.forall_mem_cons.mp fit.frames
    exact textsFit_of_frames nofun (List.forall_mem_cons.mpr ⟨trivial, others⟩)
  · next _ same =>
    cases stepped
    cases same
    exact textsFit_next (Raw.textsFit_arr _) (List.forall_mem_cons.mp fit.frames).2
  · next value same =>
    cases stepped
    cases same
    obtain ⟨here, others⟩ := List.forall_mem_cons.mp fit.frames
    have longer := ItemsFit.cons here (fit.value _ value)
    exact textsFit_of_frames nofun (List.forall_mem_cons.mpr ⟨longer _, others⟩)
  · next value same =>
    cases stepped
    cases same
    obtain ⟨here, others⟩ := List.forall_mem_cons.mp fit.frames
    have longer := ItemsFit.cons here (fit.value _ value)
    exact textsFit_next (Raw.textsFit_obj (longer _).reverse) others
  · cases stepped

/-- Reading lexemes whose texts fit keeps all texts fitting. -/
theorem Reading.TextsFit.foldlM {size : Nat} {reading last : Reading} {lexemes : List Lexeme}
    (fit : reading.TextsFit size)
    (own : ∀ lexeme ∈ lexemes, ∀ text, lexeme.text? = some text → Fits size text)
    (read : lexemes.foldlM Reading.step reading = some last) : last.TextsFit size := by
  induction lexemes generalizing reading with
  | nil =>
      cases read
      exact fit
  | cons lexeme rest inductionHypothesis =>
      obtain ⟨next, stepped, read⟩ := Option.bind_eq_some_iff.mp read
      obtain ⟨here, others⟩ := List.forall_mem_cons.mp own
      exact inductionHypothesis (fit.step here stepped) others read

/-- All texts of what text is read as fit in the text. -/
theorem Raw.textsFit_of_parse? {text : String} {raw : Raw} (parsed : Raw.parse? text = some raw) :
    raw.TextsFit text.toList.length := by
  obtain ⟨lexemes, divided, read⟩ := Option.bind_eq_some_iff.mp parsed
  have fits := fits_of_lexFrom divided (Nat.le_refl _) fun _ among => nomatch among
  unfold Raw.ofLexemes? at read
  split at read
  · next value last =>
    cases read
    have start : Reading.TextsFit text.toList.length ⟨.value, []⟩ :=
      Reading.textsFit_of_frames nofun nofun
    exact (start.foldlM fits last).value _ rfl
  · cases read

/-! ## Documents -/

/-- Embedded text is the text of a member. -/
theorem fits_of_embeddedText? {size : Nat} {members : List (Option String × Raw)} {text : String}
    (fit : ItemsFit size members)
    (embedded : embeddedText? (some embeddedName) Raw.text? members = some (some text)) :
    Fits size text := by
  unfold embeddedText? at embedded
  split at embedded
  · cases embedded
  · next name item rest =>
    split at embedded
    · split at embedded
      · exact fit (name, item) List.mem_cons_self text (Option.some.inj embedded)
      · cases embedded
    · cases embedded

/-- A string is shorter than any text which denotes it. -/
theorem length_lt_of_parseWithin? {levels : Nat} {text denoted : String}
    (parsed : parseWithin? levels text = some (.str denoted)) :
    denoted.toList.length < text.toList.length := by
  induction levels generalizing text with
  | zero => cases parsed
  | succ levels inductionHypothesis =>
      obtain ⟨raw, read, parsed⟩ := Option.bind_eq_some_iff.mp parsed
      have fit := Raw.textsFit_of_parse? read
      split at parsed
      · cases raw with
        | scalar value =>
            rw [Raw.value?] at parsed
            have := fit.own denoted (by rw [parsed]; rfl)
            rw [Fits] at this
            omega
        | arr items =>
            rw [Raw.value?] at parsed
            obtain ⟨_, _, same⟩ := Option.map_eq_some_iff.mp parsed
            cases same
        | obj members =>
            rw [Raw.value?] at parsed
            split at parsed
            · next embedded found =>
              obtain ⟨inner, rfl, parsed⟩ := Option.bind_eq_some_iff.mp parsed
              have shorter := inductionHypothesis parsed
              have := fits_of_embeddedText? (fit.members members rfl) found
              rw [Fits] at this
              omega
            · obtain ⟨_, _, same⟩ := Option.map_eq_some_iff.mp parsed
              cases same
      · cases parsed

/-- No string is denoted by itself. -/
theorem parse?_ne_str (text : String) : Json.parse? text ≠ some (.str text) := by
  intro parsed
  exact absurd (length_lt_of_parseWithin? parsed) (Nat.lt_irrefl _)

end NamedSql.Json
