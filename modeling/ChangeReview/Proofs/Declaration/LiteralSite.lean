import ChangeReview.Proofs.Declaration.LiteralContent
import ChangeReview.Proofs.Declaration.MethodHead

/-!
# Lines with a default literal

The search for the end of a parameter list counts the brackets inside string literals, while the
search for the commas of the list passes over literals. `LiteralSite` is a line with the place of a
literal default in it, and `LiteralSite.keeps_iff_balanced` says which contents may stand there: the
method that is declared with an empty literal is declared with every such literal, on every line,
exactly if the brackets in the content are balanced.
-/

namespace ChangeReview

/-- A line in which a string literal is the default of a parameter. -/
structure LiteralSite where
  /-- Everything before the parameter list. -/
  headText : Text
  /-- The texts between the commas before the parameter, and after it. -/
  left : List Text
  right : List Text
  /-- The parameter up to its equals sign, behind blanks. -/
  lead : Text
  front : Text
  /-- The blanks on both sides of the literal. -/
  gap : Text
  tail : Text
  quote : Char
  closer : Char
  /-- Everything behind the bracket that closes the list. -/
  after : Text
  deriving Repr

namespace LiteralSite

/-- The parameter with its default, between the blanks around it. -/
def piece (site : LiteralSite) (content : Text) : Text :=
  site.front ++ '=' :: (site.gap ++ literal site.quote content)

/-- All that stands between the two commas around the parameter. -/
def part (site : LiteralSite) (content : Text) : Text :=
  site.lead ++ site.piece content ++ site.tail

/-- The text between the brackets of the parameter list. -/
def listText (site : LiteralSite) (content : Text) : Text :=
  site.left.flatMap (· ++ [',']) ++ (site.part content ++ site.right.flatMap (',' :: ·))

/-- The line with this content in the literal. -/
def text (site : LiteralSite) (content : Text) : Text :=
  site.headText ++ '(' :: (site.listText content ++ site.closer :: site.after)

/-- The literal is read as the default of a parameter while it is empty. -/
structure IsRead (site : LiteralSite) : Prop where
  headText : '(' ∉ site.headText
  quote : Nesting.isQuote site.quote = true
  lead : IsBlankText site.lead
  gap : IsBlankText site.gap
  tail : IsBlankText site.tail
  front : ∀ c, site.front.head? = some c → isBlank c = false
  /-- The literal opens outside brackets and other literals. -/
  outside : ∃ last, Nesting.Passes '\x00' (site.lead ++ (site.front ++ '=' :: site.gap)) last none
  assigned : Nesting.splitAssignment (site.piece []) =
    some (site.front, site.gap ++ literal site.quote [])
  parts : Nesting.splitCommas (site.listText []) = site.left ++ site.part [] :: site.right
  balanced : Nesting.Balanced (site.listText [])
  closer : Nesting.isCloser ((site.listText []).getLastD '(') site.closer = true

/-- Whatever method the line declares with an empty literal, it declares with this content. -/
def Keeps (site : LiteralSite) (content : Text) : Prop :=
  ∀ lineNumber declaration, declaration.isMethod = true →
    Declaration.ofLine? (site.text []) lineNumber = some declaration →
      Declaration.ofLine? (site.text content) lineNumber = some declaration

variable {site : LiteralSite} {content : Text}

theorem listText_eq (site : LiteralSite) (content : Text) :
    site.listText content =
      (site.left.flatMap (· ++ [',']) ++ (site.lead ++ (site.front ++ '=' :: site.gap))) ++
        (literal site.quote content ++ (site.tail ++ site.right.flatMap (',' :: ·))) := by
  simp [listText, part, piece]

theorem IsRead.balanced_listText (h : site.IsRead) (hcontent : Nesting.Balanced content) :
    Nesting.Balanced (site.listText content) := by
  have hempty := h.balanced
  rw [listText_eq] at hempty ⊢
  refine hempty.replace (balanced_literal h.quote rfl) (balanced_literal h.quote hcontent) ?_
  intro before
  rw [getLastD_literal, getLastD_literal]

theorem getLastD_listText (site : LiteralSite) (content : Text) (before : Char) :
    (site.listText content).getLastD before = (site.listText []).getLastD before := by
  have hlast := getLastD_literal site.quote
  simp only [List.getLastD_eq_getLast?] at hlast ⊢
  simp only [listText_eq, List.getLast?_append, Option.getD_or, hlast]

/-- The list is cut at the same commas, and none of them stands in the literal. -/
theorem IsRead.splitCommas (h : site.IsRead) (hcontent : site.quote ∉ content)
    (hbackslash : '\\' ∉ content) :
    Nesting.splitCommas (site.listText content) = site.left ++ site.part content :: site.right := by
  obtain ⟨last, houtside⟩ := h.outside
  obtain ⟨hparts, hleft⟩ := Nesting.commasFrom_flatMap (show '\x00' ≠ '=' by decide) h.parts
  have hpart {content : Text} (hcontent : site.quote ∉ content) (hbackslash : '\\' ∉ content) :
      ∀ rest, Nesting.commasFrom '\x00' 0 none (site.part content ++ rest) =
        (site.lead ++ (site.front ++ '=' :: site.gap) ++ literal site.quote content).foldr
          Nesting.consFirst (Nesting.commasFrom site.quote 0 none (site.tail ++ rest)) := by
    intro rest
    have hpasses := houtside.append (passes_plainLiteral h.quote hcontent hbackslash last)
    rw [← hpasses]
    simp [part, piece]
  obtain ⟨first, others, hbehind⟩ := List.exists_cons_of_ne_nil
    (Nesting.commasFrom_ne_nil site.quote 0 none (site.tail ++ site.right.flatMap (',' :: ·)))
  have hfirst : first = site.tail ∧ others = site.right := by
    rw [hpart List.not_mem_nil List.not_mem_nil, hbehind, Nesting.foldr_consFirst, List.cons.injEq]
      at hparts
    refine ⟨?_, hparts.2.symm⟩
    have hsame := hparts.1
    simp only [part, piece, List.append_assoc, List.cons_append, List.append_cancel_left_eq,
      List.cons.injEq, true_and] at hsame
    exact hsame.symm
  rw [Nesting.splitCommas, listText, hleft, hpart hcontent hbackslash, hbehind,
    Nesting.foldr_consFirst, hfirst.1, hfirst.2]
  simp [part, piece]

/-- A content with balanced brackets leaves the parameters as they are. -/
theorem IsRead.listOfText (h : site.IsRead) (hcontent : site.quote ∉ content)
    (hbackslash : '\\' ∉ content) (hbalanced : Nesting.Balanced content) :
    Parameter.listOfText (site.listText content) = Parameter.listOfText (site.listText []) := by
  have hpart : Parameter.ofText? (site.part content) = Parameter.ofText? (site.part []) :=
    Parameter.ofText?_literal h.quote hbalanced h.lead h.gap h.tail h.front h.assigned
  rw [Parameter.listOfText, Parameter.listOfText, h.splitCommas hcontent hbackslash, h.parts,
    List.filterMap_append, List.filterMap_append, List.filterMap_cons, List.filterMap_cons, hpart]

theorem IsRead.method? (h : site.IsRead) (hcontent : site.quote ∉ content)
    (hbackslash : '\\' ∉ content) (hbalanced : Nesting.Balanced content) (lineNumber : Nat) :
    Declaration.method? (Text.trim (site.text content)) lineNumber =
      Declaration.method? (Text.trim (site.text [])) lineNumber := by
  have hcloser : isBlank site.closer = false := Bool.eq_false_iff.mpr fun hblank =>
    isInert_of_isBlank hblank (Nesting.mem_marks_of_isCloser h.closer)
  have hplain : '(' ∉ Text.trimStart site.headText := fun hmem =>
    h.headText ((List.dropWhile_sublist _).mem hmem)
  have hclose {content : Text} (hbalanced : Nesting.Balanced content) :=
    Nesting.splitAtClose_bracketed (show Nesting.isOpener '(' = true from rfl)
      (h.balanced_listText hbalanced)
      ((getLastD_listText site content '(').symm ▸ h.closer) (Text.trimEnd site.after)
  rw [text, text, trim_append_parenthesis _ _ hcloser, trim_append_parenthesis _ _ hcloser,
    Declaration.method?_append_parenthesis hplain, Declaration.method?_append_parenthesis hplain,
    hclose hbalanced, hclose (show Nesting.Balanced [] from rfl)]
  simp only [Option.bind_some, List.drop_succ_cons, List.drop_zero,
    h.listOfText hcontent hbackslash hbalanced]

/-- A content with balanced brackets hides no method. -/
theorem IsRead.keeps (h : site.IsRead) (hcontent : site.quote ∉ content)
    (hbackslash : '\\' ∉ content) (hbalanced : Nesting.Balanced content) : site.Keeps content := by
  intro lineNumber declaration hmethod hempty
  apply Declaration.ofLine?_of_method?
  rw [h.method? hcontent hbackslash hbalanced]
  exact Declaration.method?_of_isMethod hempty hmethod

/-- A method with two parameters, the first of them with a literal as its default. -/
def twoParameters (quote : Char) : LiteralSite where
  headText := "m"
  left := []
  right := [" b"]
  lead := []
  front := "a "
  gap := " "
  tail := []
  quote := quote
  closer := ')'
  after := " \x7b"

theorem isRead_twoParameters {quote : Char} (hquote : Nesting.isQuote quote = true) :
    (twoParameters quote).IsRead := by
  have hpart : Nesting.IsPart "a = " := by decide
  have houtside := hpart.passes '\x00'
  rcases Nesting.isQuote_cases hquote with rfl | rfl | rfl <;>
    exact ⟨by decide, rfl, by decide, by decide, by decide, by decide, ⟨_, houtside⟩, by decide,
      by decide, by decide, by decide⟩

theorem ofLine?_twoParameters {quote : Char} (hquote : Nesting.isQuote quote = true) :
    Declaration.ofLine? ((twoParameters quote).text []) 1 =
      some
        { kind := .method
          visibility := none
          name := "m"
          parameters := [⟨"a", "unknown"⟩, ⟨"b", "unknown"⟩]
          returnType := none
          accessor := none
          lineNumber := 1 } := by
  rcases Nesting.isQuote_cases hquote with rfl | rfl | rfl <;> decide +kernel

/-- A list that ends inside a literal has no parameter behind the literal. -/
theorem length_listOfText_le_one {quote : Char} (hquote : Nesting.isQuote quote = true)
    {body : Text} (hbody : Nesting.IsLiteralBody quote body) :
    (Parameter.listOfText ("a = ".toList ++ quote :: body)).length ≤ 1 := by
  have hpart : Nesting.IsPart "a = " := by decide
  have hopen : Nesting.Passes ' ' (quote :: body) (body.getLastD quote) (some quote) := by
    intro rest
    rw [List.cons_append, Nesting.commasFrom]
    simp only [hquote, ↓reduceIte]
    rw [Nesting.commasFrom_literalBody hquote hbody, List.foldr_cons]
  have hparts := ((hpart.passes '\x00').append hopen).commasFrom
  rw [Parameter.listOfText, Nesting.splitCommas, hparts]
  exact (List.length_filterMap_le ..).trans (le_refl 1)

/-- A content whose brackets are not balanced takes a parameter from a list, or its end. -/
theorem balanced_of_keeps {quote : Char} (hquote : Nesting.isQuote quote = true)
    (hcontent : quote ∉ content) (hbackslash : '\\' ∉ content)
    (h : (twoParameters quote).Keeps content) : Nesting.Balanced content := by
  have hmethod := Declaration.method?_of_isMethod (h 1 _ rfl (ofLine?_twoParameters hquote)) rfl
  have htext : (twoParameters quote).text content = ['m'] ++ '(' ::
      (("a = ".toList ++ literal quote content ++ ", b".toList) ++ ')' :: " \x7b".toList) := by
    simp [text, listText, part, piece, twoParameters]
  rw [htext, trim_append_parenthesis _ _ rfl] at hmethod
  obtain ⟨inner, after, hclose, hlist⟩ :=
    Declaration.exists_splitAtClose_of_method? (show '(' ∉ Text.trimStart ['m'] by decide) hmethod
  have hfront : Nesting.depthFrom? '(' 0 ("a = ".toList ++ [quote]) = some 0 := by
    have hlead : Nesting.Balanced "a = " := by decide
    exact (hlead.append (balanced_quote hquote)).depthFrom? '('
  have hbehind : ("a = ".toList ++ literal quote content ++ ", b".toList) ++
      ')' :: Text.trimEnd " \x7b".toList =
        "a = ".toList ++ [quote] ++ (content ++ quote :: ", b) \x7b".toList) := by
    have hend : Text.trimEnd " \x7b".toList = " \x7b".toList := rfl
    rw [hend]
    simp [literal]
  rw [hbehind, Nesting.splitAtClose_cons rfl, Nesting.closeFrom_append hfront,
    List.getLastD_concat] at hclose
  cases hdepth : Nesting.depthFrom? quote 0 content with
  | none =>
    -- The list ends inside the literal, before its second parameter.
    obtain ⟨body, closer, rest, rfl, hbody⟩ := Nesting.closeFrom_of_depthFrom?_eq_none hdepth
    rw [hbody] at hclose
    cases hclose
    rw [List.mem_append, not_or] at hcontent hbackslash
    have hone := length_listOfText_le_one hquote
      (Nesting.isLiteralBody_of_notMem hcontent.1 hbackslash.1)
    have hsame : ('(' :: ("a = ".toList ++ [quote] ++ body)).drop 1 =
        "a = ".toList ++ quote :: body := by simp
    rw [hsame] at hlist
    rw [← hlist] at hone
    simp at hone
  | some depth =>
    cases depth with
    | zero =>
      have hequals : quote ≠ '=' := by
        rintro rfl
        cases hquote
      rwa [Nesting.Balanced, Nesting.depthFrom?_congr (by decide) hequals]
    | succ depth =>
      -- The list does not end at all: a bracket of the literal is still open at its parenthesis.
      have hopen (before : Char) : Nesting.closeFrom before (depth + 1 + 1)
          (quote :: ", b) \x7b".toList) = none := by
        rcases Nesting.isQuote_cases hquote with rfl | rfl | rfl <;>
          simp [Nesting.closeFrom, Nesting.step, Nesting.isOpener, Nesting.isCloser]
      rw [Nesting.closeFrom_append hdepth, hopen] at hclose
      cases hclose

/-- A method that is declared with an empty literal as a default is declared with every literal of
this content in its place exactly if the brackets in the content are balanced. -/
theorem keeps_iff_balanced {quote : Char} {content : Text} (hquote : Nesting.isQuote quote = true)
    (hcontent : quote ∉ content) (hbackslash : '\\' ∉ content) :
    (∀ site : LiteralSite, site.IsRead → site.quote = quote → site.Keeps content) ↔
      Nesting.Balanced content := by
  constructor
  · intro hkeeps
    exact balanced_of_keeps hquote hcontent hbackslash
      (hkeeps _ (isRead_twoParameters hquote) rfl)
  · rintro hbalanced site hread rfl
    exact hread.keeps hcontent hbackslash hbalanced

/-- A default between two other parameters, behind a type with an arrow and a quote. -/
def arrowDefault : LiteralSite where
  headText := "  private static große "
  left := ["key: Map<K, (k: K) => V>"]
  right := [" \x7b x, y \x7d: Point"]
  lead := " "
  front := "at: (n: 'a,b') => string "
  gap := " "
  tail := []
  quote := '\x22'
  closer := ')'
  after := ": A[] \x7b"

theorem keeps_iff_balanced_arrowDefault :
    arrowDefault.text "f(x) = [1, 2: 3]" =
        ("  private static große (key: Map<K, (k: K) => V>, at: (n: 'a,b') => string = " ++
          "\x22f(x) = [1, 2: 3]\x22, \x7b x, y \x7d: Point): A[] \x7b").toList ∧
      Declaration.ofLine? (arrowDefault.text "f(x) = [1, 2: 3]") 3 =
        some
          { kind := .method
            visibility := some .priv
            name := "große"
            parameters := [⟨"key", "Map<K, (k: K) => V>"⟩, ⟨"at", "(n: 'a,b') => string"⟩,
              ⟨"destructured", "Point"⟩]
            returnType := some "A[]".toList
            accessor := none
            lineNumber := 3 } := by
  have houtside : ∃ last, Nesting.Passes '\x00' (arrowDefault.lead ++
      (arrowDefault.front ++ '=' :: arrowDefault.gap)) last none := ⟨' ', fun _ => rfl⟩
  have hread : arrowDefault.IsRead :=
    ⟨by decide, rfl, by decide, by decide, by decide, by decide, houtside, by decide +kernel,
      by decide +kernel, by decide +kernel, by decide +kernel⟩
  have hbalanced : Nesting.Balanced "f(x) = [1, 2: 3]" := by decide
  refine ⟨by decide +kernel, ?_⟩
  exact (keeps_iff_balanced rfl (by decide) (by decide)).mpr hbalanced arrowDefault hread rfl 3 _
    rfl (by decide +kernel)

/-- A closing bracket in a literal ends the list there, and an opening one leaves it open. -/
theorem ofLine?_bracketDefaults :
    (Declaration.ofLine? "foo(a = ''): void \x7b" 1).isSome ∧
      Declaration.ofLine? "foo(a = ')'): void \x7b" 1 = none ∧
      Declaration.ofLine? "foo(a = '('): void \x7b" 1 = none := by
  decide +kernel

end LiteralSite

end ChangeReview
