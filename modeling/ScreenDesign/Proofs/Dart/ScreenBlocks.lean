import ScreenDesign.Proofs.Canonical
import ScreenDesign.Proofs.Dart.Blocks
import ScreenDesign.Proofs.Dart.WellFormed
import ScreenDesign.Proofs.Number.Text

/-!
# The blocks of elements

Of the widget of an element all that is known is that its brackets are balanced, and that is
enough: the place of the element stands in front of it, and it stays inside of the brackets of
the block (`trees?_positioned`).  So the children of the stack of a screen are one block for each
element, in order (`exists_blocks`), and they stand where they are looked for
(`stackChildren?_build`).
-/

namespace ScreenDesign

/-- The spot of an element with its numbers in some unit. -/
def Element.spot (unit : String) (e : Element) : Spot :=
  ⟨e.type.name, decimalText e.x ++ unit, decimalText e.y ++ unit, decimalText e.width ++ unit,
    decimalText e.height ++ unit⟩

namespace Dart

open Layout

/-! ## Source text as trees -/

/-- Tokens with balanced brackets have trees. -/
theorem exists_trees_of_each {ls : List Layout} (h : Each true ls) :
    ∃ ts, trees? (rowLexemes (ls.flatMap tokens)) = some ts := by
  rw [← lexemes_eq]
  refine exists_trees ?_
  rw [codeBrackets_lexemes h.rows.fits]
  exact h.rows.balanced []

theorem codeBrackets_code {cs : List Char} (h : cs.all isInnerChar = true) :
    codeBrackets (cs.map .code) = [] := by
  induction cs with
  | nil => rfl
  | cons c cs ih =>
      rw [List.all_cons, Bool.and_eq_true] at h
      have hbracket : isBracket c = false := by
        have hc := h.1
        simp only [isInnerChar, Bool.and_eq_true, Bool.not_eq_true'] at hc
        exact hc.1.1
      rw [List.map_cons, codeBrackets, hbracket]
      exact ih h.2

theorem trees?_code {cs : List Char} (h : cs.all isInnerChar = true) :
    trees? (cs.map .code) = some (leaves cs) := by
  rw [trees?_leaves (codeBrackets_code h), leaves, List.map_map]
  rfl

/-- Brackets behind some code. -/
theorem trees?_enclosed {opening body closing : List Token} {front back : List Char} {o c : Char}
    {ts : List Tree} (hpair : closing? o = some c)
    (hopening : rowLexemes opening = (front ++ [o]).map .code)
    (hfront : front.all isInnerChar = true)
    (hclosing : rowLexemes closing = (c :: back).map .code)
    (hback : codeBrackets (back.map .code) = []) (hbody : trees? (rowLexemes body) = some ts) :
    trees? (rowLexemes (opening ++ (body ++ closing))) =
      some (leaves front ++ .group o ts :: leaves back) := by
  have hgroup : trees? ([.code o] ++ (rowLexemes body ++ [.code c])) = some [.group o ts] := by
    rw [closing?] at hpair
    split at hpair
    case isTrue heq =>
      cases heq
      cases hpair
      exact trees?_around rfl hbody rfl
    case isFalse =>
      split at hpair
      case isTrue heq =>
        cases heq
        cases hpair
        exact trees?_around rfl hbody rfl
      case isFalse =>
        split at hpair
        case isTrue heq =>
          cases heq
          cases hpair
          exact trees?_around rfl hbody rfl
        case isFalse => cases hpair
  have hleaves : trees? (back.map .code) = some (leaves back) := by
    rw [trees?_leaves hback, leaves, List.map_map]
    rfl
  have hall := trees?_append (trees?_code hfront) (trees?_append hgroup hleaves)
  rw [rowLexemes_append, rowLexemes_append, hopening, hclosing]
  simpa using hall

/-- Braces behind some code. -/
theorem trees?_braces {opening : List Token} {header : List Char} {body : List Layout}
    {ts : List Tree} (hopening : rowLexemes opening = (header ++ ['\x7b']).map .code)
    (hheader : header.all isInnerChar = true)
    (hbody : trees? (rowLexemes (body.flatMap tokens)) = some ts) :
    trees? (rowLexemes (Layout.block opening body [.code "\x7d"]).tokens) =
      some (leaves header ++ [.group '\x7b' ts]) := by
  have hclosing : rowLexemes [.code "\x7d"] = ('\x7d' :: []).map .code := rfl
  rw [tokens_block]
  exact trees?_enclosed rfl hopening hheader hclosing rfl hbody

/-! ## Places -/

/-- The digits of a whole number with a zero behind the point. -/
def placeChars (n : Int) : List Char := (decimalText n ++ ".0").toList

theorem all_isNumeric_placeChars (n : Int) : (placeChars n).all isNumeric = true := by
  rw [placeChars, String.toList_append, List.all_append, all_isNumeric_decimalText]
  rfl

theorem all_isInner_placeChars (n : Int) : (placeChars n).all isInnerChar = true :=
  List.all_eq_true.mpr fun c hc =>
    isInnerChar_of rfl (List.all_eq_true.mp (all_isNumeric_placeChars n) c hc)

theorem visible_placeChars (n : Int) : visible (placeChars n) = placeChars n :=
  visible_eq_self rfl (List.all_eq_true.mp (all_isNumeric_placeChars n))

theorem lexemes_placeRow {key : String} {n : Int} {l : Layout} (h : placeRow key n = .ok l)
    (hn : n.natAbs < Nat.pow 2 53) :
    rowLexemes l.tokens =
      (visible (key ++ ": ").toList ++ (placeChars n ++ [','])).map .code := by
  obtain ⟨x, hx, rfl⟩ := map_eq_ok.mp h
  have hkey : (Token.code (key ++ ": ")).lexemes = (visible (key ++ ": ").toList).map .code :=
    flatMap_charLexemes _
  have hnumber : (Token.number x).lexemes = (placeChars n).map .code := by
    have htext : (Token.number x).lexemes = x.onePlace.toList.flatMap charLexemes := rfl
    rw [htext, onePlace_of_double hn hx, flatMap_charLexemes]
    exact congrArg (List.map Lexeme.code) (visible_placeChars n)
  have hcomma : (Token.code ",").lexemes = [.code ','] := by decide
  rw [tokens_line, rowLexemes, List.flatMap_cons, List.flatMap_cons, List.flatMap_singleton, hkey,
    hnumber, hcomma, List.map_append, List.map_append]
  rfl

/-- An argument with a whole number, as trees. -/
def placeTrees (key : List Char) (n : Int) : List Tree :=
  leaves (key ++ placeChars n) ++ [.leaf (.code ',')]

theorem trees?_placeRow {key : String} {cs : List Char} {n : Int} {l : Layout}
    (h : placeRow key n = .ok l) (hn : n.natAbs < Nat.pow 2 53)
    (hkey : visible (key ++ ": ").toList = cs) (hcs : cs.all isInnerChar = true) :
    trees? (rowLexemes l.tokens) = some (placeTrees cs n) := by
  have hall : (cs ++ placeChars n).all isInnerChar = true := by
    rw [List.all_append, hcs, all_isInner_placeChars]
    rfl
  have hcomma : trees? [.code ','] = some [.leaf (.code ',')] := rfl
  have hrow := trees?_append (trees?_code hall) hcomma
  rw [lexemes_placeRow h hn, hkey, ← List.append_assoc, List.map_append]
  exact hrow

/-- The place of an element as trees. -/
def placesTrees (e : Element) : List Tree :=
  placeTrees "left:".toList e.x ++ (placeTrees "top:".toList e.y ++
    (placeTrees "width:".toList e.width ++ placeTrees "height:".toList e.height))

theorem trees?_placeRows {e : Element} {ls : List Layout} (h : placeRows e = .ok ls)
    (small : e.Small) : trees? (rowLexemes (ls.flatMap tokens)) = some (placesTrees e) := by
  rw [placeRows, bind_eq_ok] at h
  obtain ⟨left, hleft, h⟩ := h
  obtain ⟨top, htop, h⟩ := bind_eq_ok.mp h
  obtain ⟨width, hwidth, h⟩ := bind_eq_ok.mp h
  obtain ⟨height, hheight, h⟩ := bind_eq_ok.mp h
  cases h
  have hl : trees? _ = some (placeTrees "left:".toList e.x) :=
    trees?_placeRow hleft small.left rfl rfl
  have ht : trees? _ = some (placeTrees "top:".toList e.y) :=
    trees?_placeRow htop small.top rfl rfl
  have hw : trees? _ = some (placeTrees "width:".toList e.width) :=
    trees?_placeRow hwidth small.width rfl rfl
  have hh : trees? _ = some (placeTrees "height:".toList e.height) :=
    trees?_placeRow hheight small.height rfl rfl
  have hall := trees?_append hl (trees?_append ht (trees?_append hw hh))
  rw [placesTrees, ← hall]
  simp only [List.flatMap_cons, List.flatMap_nil, List.append_nil, rowLexemes_append]

section

variable {key cs : List Char} (h : cs.all isInnerChar = true) (n : Int) (rest : List Tree)

include h

theorem value?_place_self :
    value? cs (placeTrees cs n ++ rest) = some (decimalText n ++ ".0") := by
  have hall : (cs ++ placeChars n).all isInnerChar = true := by
    rw [List.all_append, h, all_isInner_placeChars]
    rfl
  have hprefix : cs.isPrefixOf (cs ++ placeChars n) = true :=
    List.isPrefixOf_iff_prefix.mpr (List.prefix_append _ _)
  rw [placeTrees, List.append_assoc, List.singleton_append, value?_argument hall, if_pos hprefix,
    List.drop_left, placeChars, String.ofList_toList]
  rfl

theorem value?_place_other (hne : key.isPrefixOf (cs ++ placeChars n) = false) :
    value? key (placeTrees cs n ++ rest) = value? key rest := by
  have hall : (cs ++ placeChars n).all isInnerChar = true := by
    rw [List.all_append, h, all_isInner_placeChars]
    rfl
  rw [placeTrees, List.append_assoc, List.singleton_append, value?_argument hall,
    if_neg (by rw [hne]; exact Bool.false_ne_true)]
  rfl

end

/-- The numbers of a place are read whatever comes behind them. -/
theorem value?_placesTrees (e : Element) (rest : List Tree) :
    value? "left:".toList (placesTrees e ++ rest) = some (decimalText e.x ++ ".0") ∧
      value? "top:".toList (placesTrees e ++ rest) = some (decimalText e.y ++ ".0") ∧
      value? "width:".toList (placesTrees e ++ rest) = some (decimalText e.width ++ ".0") ∧
      value? "height:".toList (placesTrees e ++ rest) = some (decimalText e.height ++ ".0") := by
  have hsplit : placesTrees e ++ rest = placeTrees "left:".toList e.x ++
      (placeTrees "top:".toList e.y ++ (placeTrees "width:".toList e.width ++
        (placeTrees "height:".toList e.height ++ rest))) := by
    simp only [placesTrees, List.append_assoc]
  rw [hsplit]
  refine ⟨value?_place_self rfl _ _, ?_, ?_, ?_⟩
  · rw [value?_place_other rfl _ _ rfl]
    exact value?_place_self rfl _ _
  · rw [value?_place_other rfl _ _ rfl, value?_place_other rfl _ _ rfl]
    exact value?_place_self rfl _ _
  · rw [value?_place_other rfl _ _ rfl, value?_place_other rfl _ _ rfl,
      value?_place_other rfl _ _ rfl]
    exact value?_place_self rfl _ _

/-! ## Elements -/

/-- The first word of a remark is the type. -/
theorem firstWord_remark (e : Element) : firstWord (" " ++ remarkText e) = e.type.name := by
  have hname (t : ComponentType) : ∃ c cs, t.name.toList = c :: cs ∧ ' ' ∉ c :: cs := by
    cases t <;> exact ⟨_, _, rfl, by decide⟩
  obtain ⟨c, cs, hchars, hword⟩ := hname e.type
  have hremark : (" " ++ remarkText e).toList =
      ' ' :: ((c :: cs) ++ ' ' :: '\x27' :: (" ".intercalate (Text.words e.id) ++ "'").toList) := by
    simp [remarkText, hchars]
  have hc : c ≠ ' ' := fun heq => hword (heq ▸ List.mem_cons_self)
  have htake : ((c :: cs) ++ ' ' :: '\x27' ::
      (" ".intercalate (Text.words e.id) ++ "'").toList).takeWhile (· ≠ ' ') = c :: cs := by
    rw [List.takeWhile_append_of_pos]
    · simp
    · intro d hd
      exact decide_eq_true fun heq => hword (heq ▸ hd)
  rw [firstWord, hremark, List.dropWhile_cons_of_pos (by rfl), List.cons_append,
    List.dropWhile_cons_of_neg (by simpa using hc), ← List.cons_append, htake, ← hchars,
    String.ofList_toList]

/-- The block of an element as trees, with anything behind its place. -/
def blockTrees (e : Element) (rest : List Tree) : List Tree :=
  .leaf (.comment (" " ++ remarkText e)) ::
    (leaves "Positioned".toList ++ [.group '(' (placesTrees e ++ rest)])

theorem all_isInner_blockTrees (e : Element) (rest : List Tree) :
    (blockTrees e rest).all Tree.isInner = true := rfl

/-- The block of an element gives its spot. -/
theorem blockOf?_blockTrees (e : Element) (rest : List Tree) :
    blockOf? (blockTrees e rest) = some (e.spot ".0") := by
  obtain ⟨hleft, htop, hwidth, hheight⟩ := value?_placesTrees e rest
  have hbody : bodyOf? "Positioned".toList
      (leaves "Positioned".toList ++ [.group '(' (placesTrees e ++ rest)]) =
        some (placesTrees e ++ rest) := by
    rw [bodyOf?_group, flatMap_code_leaves, if_pos rfl]
  rw [blockTrees, blockOf?, hbody]
  show (do
    let left ← value? "left:".toList (placesTrees e ++ rest)
    let top ← value? "top:".toList (placesTrees e ++ rest)
    let width ← value? "width:".toList (placesTrees e ++ rest)
    let height ← value? "height:".toList (placesTrees e ++ rest)
    pure (⟨firstWord (" " ++ remarkText e), left, top, width, height⟩ : Spot)) = _
  rw [hleft, htop, hwidth, hheight, firstWord_remark]
  rfl

/-- A positioned element is its block and a comma. -/
theorem trees?_positioned {index : Int} {e : Element} {ls : List Layout}
    (h : (positioned index e).result = .ok ls) (small : e.Small) :
    ∃ rest, trees? (rowLexemes (ls.flatMap tokens)) =
      some (blockTrees e rest ++ [.leaf (.code ',')]) := by
  obtain ⟨place, inside, hplace, hinside, rfl⟩ := positioned_eq_ok h
  have heach : Each true [attach "child" inside] :=
    ⟨.attach rfl (sound_elementWidget hinside), trivial⟩
  obtain ⟨rest, hrest⟩ := exists_trees_of_each heach
  have harguments := trees?_append (trees?_placeRows hplace small) hrest
  have hblock : trees? ((.comment (" " ++ remarkText e) :: "Positioned(".toList.map .code) ++
      ((rowLexemes (place.flatMap tokens) ++
          rowLexemes ([attach "child" inside].flatMap tokens)) ++ [.code ')', .code ','])) =
      some (blockTrees e rest ++ [.leaf (.code ',')]) := trees?_around rfl harguments rfl
  have htokens : [elementRemark e, argument "Positioned" (place ++ [attach "child" inside])].flatMap
      tokens = [.remark (remarkText e), .code "Positioned("] ++
        ((place.flatMap tokens ++ [attach "child" inside].flatMap tokens) ++ [.code "),"]) := by
    simp [elementRemark, remarkText]
  have hopening : rowLexemes [.remark (remarkText e), .code "Positioned("] =
      .comment (" " ++ remarkText e) :: "Positioned(".toList.map .code := rfl
  have hclosing : rowLexemes [.code "),"] = [.code ')', .code ','] := rfl
  refine ⟨rest, ?_⟩
  rw [htokens, rowLexemes_append, rowLexemes_append, rowLexemes_append, hopening, hclosing]
  exact hblock

/-- The children of the elements are their blocks, in order. -/
theorem exists_blocks {es : List Element} {lss : List (List Layout)}
    (h : List.Forall₂ (fun e ls => ∃ index : Int, (positioned index e).result = .ok ls) es lss)
    (small : ∀ e ∈ es, e.Small) :
    ∃ ts, trees? (rowLexemes (lss.flatten.flatMap tokens)) = some ts ∧
      blocks? ts = some (es.map (Element.spot ".0")) := by
  induction h with
  | nil => exact ⟨[], rfl, rfl⟩
  | @cons e ls es lss hls _ ih =>
      rw [List.forall_mem_cons] at small
      obtain ⟨index, hls⟩ := hls
      obtain ⟨rest, hfirst⟩ := trees?_positioned hls small.1
      obtain ⟨ts, hts, hblocks⟩ := ih small.2
      refine ⟨(blockTrees e rest ++ [.leaf (.code ',')]) ++ ts, ?_, ?_⟩
      · rw [List.flatten_cons, List.flatMap_append, rowLexemes_append]
        exact trees?_append hfirst hts
      · have hmark : (Tree.leaf (.code ',')).isMark = true := rfl
        rw [blocks?, List.append_assoc, List.singleton_append,
          parts_mark (all_isInner_blockTrees e rest) hmark, List.mapM_cons, blockOf?_blockTrees]
        rw [blocks?] at hblocks
        rw [hblocks]
        rfl

/-! ## The class of a state -/

/-- The declaration of a state variable is code without brackets up to a semicolon. -/
theorem exists_lexemes_field {index : Int} {e : Element} {l : Layout}
    (h : (fieldOf index e).result = .ok (some l)) :
    ∃ xs, rowLexemes l.tokens = xs ++ [.code ';'] ∧ codeBrackets (xs ++ [.code ';']) = [] := by
  have heach : Each true [l] := ⟨(sound_fieldOf h).allowed, trivial⟩
  have hbrackets := codeBrackets_lexemes heach.rows.fits
  rw [← flatMap_skeleton, lexemes_eq, List.flatMap_singleton, List.flatMap_singleton,
    skeleton_fieldOf h] at hbrackets
  have hend : ∃ xs, rowLexemes l.tokens = xs ++ [.code ';'] := by
    have hline (ts : List Token) : rowLexemes (Layout.line (ts ++ [Token.code ";"])).tokens =
        rowLexemes ts ++ [Lexeme.code ';'] := by
      rw [tokens_line, rowLexemes_append]
      rfl
    obtain ⟨c, hc⟩ := exists_stateField? h
    cases c with
    | choosable c =>
        obtain ⟨v, -, rfl⟩ := Option.map_eq_some_iff.mp hc
        exact ⟨_, hline [_, _, _, _]⟩
    | dropdown d =>
        obtain ⟨v, -, rfl⟩ := Option.map_eq_some_iff.mp hc
        exact ⟨_, hline [_, _, _, _]⟩
    | _ => cases hc
  obtain ⟨xs, hxs⟩ := hend
  rw [hxs] at hbrackets
  exact ⟨xs, hxs, hbrackets⟩

/-- Nothing is found in the declarations of state variables. -/
theorem exists_fieldTrees {fields : List Layout}
    (h : ∀ l ∈ fields, ∃ xs, rowLexemes l.tokens = xs ++ [.code ';'] ∧
      codeBrackets (xs ++ [.code ';']) = []) :
    ∃ ts, trees? (rowLexemes (fields.flatMap tokens)) = some ts ∧
      ∀ key rest, inside? key (ts ++ rest) = inside? key rest := by
  induction fields with
  | nil => exact ⟨[], rfl, fun _ _ => rfl⟩
  | cons l ls ih =>
      rw [List.forall_mem_cons] at h
      obtain ⟨⟨xs, hxs, hbrackets⟩, hls⟩ := h
      obtain ⟨ts, hts, hskip⟩ := ih hls
      refine ⟨(xs ++ [Lexeme.code ';']).map Tree.leaf ++ ts, ?_, ?_⟩
      · rw [List.flatMap_cons, rowLexemes_append, hxs]
        exact trees?_append (trees?_leaves hbrackets) hts
      · intro key rest
        rw [List.map_append, List.append_assoc, List.append_assoc]
        exact (inside?_leaves xs (ts ++ rest)).trans (hskip key rest)

/-- The arguments of the scaffold of a screen as trees. -/
def scaffoldTrees (title : String) (children : List Tree) : List Tree :=
  (leaves "appBar:AppBar".toList ++
    .group '('
      (leaves "title:Text".toList ++ .group '(' [.leaf (.literal title)] :: leaves [',']) ::
    leaves [',']) ++
  ((leaves "drawer:constAppSidebar".toList ++ .group '(' [] :: leaves [',']) ++
  (leaves "body:Stack".toList ++
    .group '(' (leaves "children:".toList ++ .group '[' children :: leaves [',']) ::
    leaves [',']))

/-- The method that builds the widget of a screen as trees. -/
def buildTrees (title : String) (children : List Tree) : List Tree :=
  leaves "@overrideWidgetbuild".toList ++
    [.group '(' (leaves "BuildContextcontext".toList),
     .group '\x7b'
      (leaves "returnScaffold".toList ++ .group '(' (scaffoldTrees title children) :: leaves [';'])]

section

variable {children : List Layout} {ts : List Tree}
  (h : trees? (rowLexemes (children.flatMap tokens)) = some ts) (title : String)

include h

theorem trees?_scaffold :
    trees? (rowLexemes ([argument "appBar: AppBar" [textRow "title: Text(" title "),"],
      row "drawer: const AppSidebar(),",
      argument "body: Stack" [brackets "children" children]].flatMap tokens)) =
        some (scaffoldTrees title ts) := by
  have hchildren : trees? (rowLexemes
      ([.code "children: ["] ++ (children.flatMap tokens ++ [.code "],"]))) =
        some (leaves "children:".toList ++ .group '[' ts :: leaves [',']) :=
    trees?_enclosed rfl rfl rfl rfl rfl h
  have hstack : trees? (rowLexemes ([.code "body: Stack("] ++
      (([.code "children: ["] ++ (children.flatMap tokens ++ [.code "],"])) ++ [.code "),"]))) =
        some (leaves "body:Stack".toList ++
          .group '(' (leaves "children:".toList ++ .group '[' ts :: leaves [',']) ::
            leaves [',']) :=
    trees?_enclosed rfl rfl rfl rfl rfl hchildren
  have htitle : trees? (rowLexemes
      ([.code "title: Text("] ++ ([.literal title] ++ [.code "),"]))) =
        some (leaves "title:Text".toList ++ .group '(' [.leaf (.literal title)] :: leaves [',']) :=
    trees?_enclosed rfl rfl rfl rfl rfl rfl
  have hbar : trees? (rowLexemes ([.code "appBar: AppBar("] ++
      (([.code "title: Text("] ++ ([.literal title] ++ [.code "),"])) ++ [.code "),"]))) =
        some (leaves "appBar:AppBar".toList ++
          .group '(' (leaves "title:Text".toList ++
            .group '(' [.leaf (.literal title)] :: leaves [',']) :: leaves [',']) :=
    trees?_enclosed rfl rfl rfl rfl rfl htitle
  have hdrawer : trees? (rowLexemes [.code "drawer: const AppSidebar(),"]) =
      some (leaves "drawer:constAppSidebar".toList ++ .group '(' [] :: leaves [',']) := rfl
  have hall := trees?_append hbar (trees?_append hdrawer hstack)
  rw [scaffoldTrees, ← hall, ← rowLexemes_append, ← rowLexemes_append]
  simp

theorem trees?_build :
    trees? (rowLexemes ((buildMethod
      [result "Scaffold"
        [argument "appBar: AppBar" [textRow "title: Text(" title "),"],
         row "drawer: const AppSidebar(),",
         argument "body: Stack" [brackets "children" children]]]).flatMap tokens)) =
      some (buildTrees title ts) := by
  have hresult : trees? (rowLexemes (result "Scaffold"
      [argument "appBar: AppBar" [textRow "title: Text(" title "),"],
       row "drawer: const AppSidebar(),",
       argument "body: Stack" [brackets "children" children]]).tokens) =
        some (leaves "returnScaffold".toList ++
          .group '(' (scaffoldTrees title ts) :: leaves [';']) := by
    rw [Dart.result, tokens_block]
    exact trees?_enclosed rfl rfl rfl rfl rfl (trees?_scaffold h title)
  have hbuild : trees? (rowLexemes
      [.code "@override", .code "Widget build(BuildContext context) \x7b"] ++
        (rowLexemes (result "Scaffold"
          [argument "appBar: AppBar" [textRow "title: Text(" title "),"],
           row "drawer: const AppSidebar(),",
           argument "body: Stack" [brackets "children" children]]).tokens ++
          rowLexemes [.code "\x7d"])) = some (buildTrees title ts) := trees?_around rfl hresult rfl
  rw [← hbuild, ← rowLexemes_append, ← rowLexemes_append, buildMethod]
  simp

end

theorem stackChildren?_build (title : String) (children : List Tree) :
    stackChildren? (buildTrees title children) = some children := rfl

end Dart

end ScreenDesign
