/-
# SymbolAtlas.Proofs.Listing.Precedence — which of several meanings a text has

A resolver is filled in passes: thunks and labels are entered unless the text is known, then aliases
and exact names are entered over whatever is there. The texts of different passes may agree in any
combination. What a text stands for in the end is one rule that does not mention passes: exact names
first, then aliases, then thunks, then the labels in the order of the listing. There is one lemma
for each way of entering, and the main statement reads the passes from the last to the first.
-/
import SymbolAtlas.Proofs.Listing.Token
import SymbolAtlas.Listing.Resolver
import SymbolAtlas.Proofs.Sequence

namespace SymbolAtlas.Resolver

/-! ## The rule -/

/-- The word that a label answers to beside its name: its first one, if it has others. -/
def labelWord? (name : Text) : Option Text := name.words.head?.filter fun word => word ≠ name

/-- The symbol that aliases give a text. If there are several for it, the last one counts. -/
def aliased? (aliases : List (Text × Text)) (text : Text) : Option Text :=
  aliases.reverse.lookup text

/-- What a text stands for, given the functions of a listing, the imported symbols and the aliases:
itself if it is an exact name, or else the symbol that the aliases give it, or else the imported
symbol that it is the thunk of, or else the first label that it is the first word of. -/
def meaning? (names imported : List Text) (aliases : List (Text × Text)) (text : Text) :
    Option Text :=
  if names.contains text || imported.contains text then some text
  else (aliased? aliases text).or
    ((imported.find? fun symbol => thunkMark ++ symbol = text).or
      (names.find? fun name => labelWord? name = some text))

/-- An exact name stands for itself. -/
theorem meaning?_of_exact {names imported : List Text} {text : Text}
    (h : text ∈ names ∨ text ∈ imported) (aliases : List (Text × Text)) :
    meaning? names imported aliases text = some text := by
  rw [meaning?, if_pos (by simpa using h)]

/-- A text is the thunk of one symbol only, so it does not matter which one is found first. -/
theorem find?_thunk_eq_some_iff {symbols : List Text} {text symbol : Text} :
    symbols.find? (fun other => thunkMark ++ other = text) = some symbol
      ↔ symbol ∈ symbols ∧ thunkMark ++ symbol = text := by
  constructor
  · intro hfind
    exact ⟨List.mem_of_find?_eq_some hfind, by simpa using List.find?_some hfind⟩
  · rintro ⟨hmem, htext⟩
    cases hfind : symbols.find? fun other => thunkMark ++ other = text with
    | none =>
        have hno := List.find?_eq_none.mp hfind symbol hmem
        exact absurd htext (by simpa using hno)
    | some other =>
        have hother : thunkMark ++ other = text := by simpa using List.find?_some hfind
        rw [List.append_cancel_left (hother.trans htext.symm)]

/-- The order of the imported symbols does not matter, nor how often each of them is there. -/
theorem meaning?_congr {imported imported' : List Text}
    (h : ∀ symbol, symbol ∈ imported ↔ symbol ∈ imported') (names : List Text)
    (aliases : List (Text × Text)) (text : Text) :
    meaning? names imported aliases text = meaning? names imported' aliases text := by
  have hfind : imported.find? (fun symbol => thunkMark ++ symbol = text)
      = imported'.find? fun symbol => thunkMark ++ symbol = text := by
    apply Option.ext
    intro symbol
    rw [find?_thunk_eq_some_iff, find?_thunk_eq_some_iff, h symbol]
  simp only [meaning?, hfind, Bool.or_eq_true, List.contains_iff_mem, h text]

/-! ## One entry -/

theorem resolve?_cons (known symbol : Text) (below : Resolver) (text : Text) :
    resolve? ((known, symbol) :: below) text
      = if text = known then some symbol else below.resolve? text := by
  show List.lookup text ((known, symbol) :: below) = _
  rw [List.lookup_cons]
  by_cases h : text = known
  · rw [if_pos h, beq_iff_eq.mpr h]
  · rw [if_neg h, beq_eq_false_iff_ne.mpr h]
    rfl

theorem resolve?_enter (text symbol other : Text) (r : Resolver) :
    (enter text symbol r).resolve? other
      = if other = text then some symbol else r.resolve? other := by
  induction r with
  | nil => exact resolve?_cons text symbol [] other
  | cons entry rest ih =>
      obtain ⟨known, old⟩ := entry
      rw [enter]
      split
      · -- the text is known: its symbol is overwritten in place
        rename_i hknown
        subst hknown
        rw [resolve?_cons, resolve?_cons]
        split <;> rfl
      · rename_i hknown
        rw [resolve?_cons, resolve?_cons, ih]
        by_cases hother : other = known
        · have hne : ¬ other = text := fun heq => hknown (hother.symm.trans heq)
          rw [if_pos hother, if_pos hother, if_neg hne]
        · rw [if_neg hother, if_neg hother]

theorem resolve?_enterNew (text symbol other : Text) (r : Resolver) :
    (enterNew text symbol r).resolve? other
      = (r.resolve? other).or (if other = text then some symbol else none) := by
  unfold enterNew
  cases htext : r.resolve? text with
  | some old =>
      rw [if_pos (by rfl)]
      by_cases hother : other = text
      · rw [hother, htext]
        rfl
      · rw [if_neg hother, Option.or_none]
  | none =>
      rw [if_neg (by simp), resolve?_enter]
      by_cases hother : other = text
      · rw [if_pos hother, if_pos hother, hother, htext, Option.none_or]
      · rw [if_neg hother, if_neg hother, Option.or_none]

/-! ## One pass -/

/-- Enters a symbol under the text that it answers to, if there is one and unless the text is
known. -/
def enterAnswer (answer? : Text → Option Text) (r : Resolver) (symbol : Text) : Resolver :=
  match answer? symbol with
  | some text => enterNew text symbol r
  | none => r

/-- A pass that keeps what is known gives a text the first symbol that answers to it. -/
theorem resolve?_foldl_enterAnswer (answer? : Text → Option Text) (symbols : List Text)
    (r : Resolver) (text : Text) :
    (symbols.foldl (enterAnswer answer?) r).resolve? text
      = (r.resolve? text).or (symbols.find? fun symbol => answer? symbol = some text) := by
  induction symbols generalizing r with
  | nil => rw [List.foldl_nil, List.find?_nil, Option.or_none]
  | cons symbol rest ih =>
      rw [List.foldl_cons, ih, List.find?_cons]
      cases hanswer : answer? symbol with
      | none => simp [enterAnswer, hanswer]
      | some word =>
          have hentered : (enterAnswer answer? r symbol).resolve? text
              = (r.resolve? text).or (if text = word then some symbol else none) := by
            rw [enterAnswer, hanswer]
            exact resolve?_enterNew word symbol text r
          rw [hentered, Option.or_assoc]
          by_cases htext : text = word
          · simp [htext]
          · have hne : ¬ word = text := fun heq => htext heq.symm
            simp [htext, hne]

/-- A pass that overwrites gives a text the last symbol that is entered for it. -/
theorem resolve?_foldl_enter (entries : List (Text × Text)) (r : Resolver) (text : Text) :
    (entries.foldl (fun r (known, symbol) => enter known symbol r) r).resolve? text
      = (aliased? entries text).or (r.resolve? text) := by
  induction entries generalizing r with
  | nil => rfl
  | cons entry rest ih =>
      obtain ⟨known, symbol⟩ := entry
      have hlast : aliased? ((known, symbol) :: rest) text
          = (aliased? rest text).or (if text = known then some symbol else none) := by
        rw [aliased?, List.reverse_cons, List.lookup_append]
        exact congrArg _ (resolve?_cons known symbol [] text)
      rw [List.foldl_cons, ih, resolve?_enter, hlast, Option.or_assoc]
      split <;> rfl

/-- A pass that enters names for themselves. -/
theorem resolve?_foldl_exact (exact : List Text) (r : Resolver) (text : Text) :
    (exact.foldl (fun r symbol => enter symbol symbol r) r).resolve? text
      = if text ∈ exact then some text else r.resolve? text := by
  induction exact generalizing r with
  | nil => simp
  | cons name rest ih =>
      rw [List.foldl_cons, ih, resolve?_enter]
      by_cases hrest : text ∈ rest
      · simp [hrest]
      · by_cases hname : text = name <;> simp [hrest, hname]

/-! ## The pass of the labels, which may fail -/

theorem enterLabel_of_blank (r : Resolver) {name : Text} (h : name.isBlankText = true) :
    enterLabel r name = .error .noItem := by
  unfold enterLabel Token.firstWord
  rw [(Text.words_eq_nil_iff name).mpr h]
  rfl

theorem enterLabel_of_not_blank (r : Resolver) {name : Text} (h : name.isBlankText = false) :
    enterLabel r name = .ok (enterAnswer labelWord? r name) := by
  obtain ⟨word, rest, hwords, hfirst⟩ := Token.firstWord_of_not_blank h
  rw [enterLabel, hfirst]
  show Except.ok (if word = name then r else enterNew word name r) = _
  unfold enterAnswer labelWord?
  rw [hwords, List.head?_cons, Option.filter_some]
  by_cases hword : word = name <;> simp [hword]

/-- Labels are entered one after the other, up to the first blank one. -/
theorem foldlM_enterLabel (names : List Text) (r : Resolver) :
    names.foldlM enterLabel r
      = if names.any Text.isBlankText then .error .noItem
        else .ok (names.foldl (enterAnswer labelWord?) r) := by
  induction names generalizing r with
  | nil => rfl
  | cons name rest ih =>
      rw [List.foldlM_cons, List.any_cons]
      cases hblank : name.isBlankText with
      | true =>
          rw [enterLabel_of_blank r hblank]
          rfl
      | false =>
          rw [enterLabel_of_not_blank r hblank]
          exact ih (enterAnswer labelWord? r name)

/-! ## All passes -/

/-- A resolver that could be built gives each text its meaning. -/
theorem resolve?_build {names imported : List Text} {aliases : List (Text × Text)} {r : Resolver}
    (h : build names imported aliases = .ok r) (text : Text) :
    r.resolve? text = meaning? names imported aliases text := by
  rw [build, bind_eq_ok] at h
  obtain ⟨labels, hlabels, h⟩ := h
  cases h
  rw [foldlM_enterLabel] at hlabels
  split at hlabels
  · cases hlabels
  · cases hlabels
    -- thunks are a pass in which each symbol answers to one text
    have hthunks : (imported.foldl (fun r symbol => enterNew (thunkMark ++ symbol) symbol r) []
          : Resolver).resolve? text
        = imported.find? fun symbol => thunkMark ++ symbol = text := by
      have hpass := resolve?_foldl_enterAnswer (fun symbol => some (thunkMark ++ symbol)) imported
        [] text
      simp only [Option.some.injEq] at hpass
      exact hpass
    rw [resolve?_foldl_exact, resolve?_foldl_enter, resolve?_foldl_enterAnswer, hthunks]
    by_cases hexact : text ∈ names ∨ text ∈ imported
    · rw [if_pos (List.mem_append.mpr hexact.symm), meaning?_of_exact hexact]
    · have hno : ¬ text ∈ imported ++ names := fun hmem => hexact (List.mem_append.mp hmem).symm
      rw [if_neg hno, meaning?, if_neg (by simpa using hexact)]

theorem build_eq_error_iff {names imported : List Text} {aliases : List (Text × Text)}
    {failure : Failure} :
    build names imported aliases = .error failure
      ↔ failure = .noItem ∧ ∃ name ∈ names, name.isBlankText = true := by
  rw [build, foldlM_enterLabel]
  by_cases hblank : names.any Text.isBlankText = true
  · rw [if_pos hblank]
    have hsome := List.any_eq_true.mp hblank
    constructor
    · intro h
      cases h
      exact ⟨rfl, hsome⟩
    · rintro ⟨rfl, -⟩
      rfl
  · rw [if_neg hblank]
    constructor
    · intro h
      cases h
    · rintro ⟨-, hsome⟩
      exact absurd (List.any_eq_true.mpr hsome) hblank

/-- A resolver can be built for any names that are not blank. -/
theorem build_total {names : List Text} (h : ∀ name ∈ names, name.isBlankText = false)
    (imported : List Text) (aliases : List (Text × Text)) :
    ∃ r, build names imported aliases = .ok r := by
  cases hbuild : build names imported aliases with
  | ok r => exact ⟨r, rfl⟩
  | error failure =>
      obtain ⟨-, name, hname, hblank⟩ := build_eq_error_iff.mp hbuild
      rw [h name hname] at hblank
      cases hblank

/-- A resolver can be built unless the name of a function is blank. It gives every text the meaning
of the rule, so an exact name stands for itself whatever else is entered for it, and neither the
order of the imported symbols nor how often each of them is given changes what a text stands for. -/
theorem build_gives_meanings (names imported : List Text) (aliases : List (Text × Text)) :
    (∀ failure, build names imported aliases = .error failure
      ↔ failure = .noItem ∧ ∃ name ∈ names, name.isBlankText = true) ∧
    ((∀ name ∈ names, name.isBlankText = false) →
      ∃ r, build names imported aliases = .ok r ∧
        (∀ text, r.resolve? text = meaning? names imported aliases text) ∧
        (∀ text, text ∈ names ∨ text ∈ imported → r.resolve? text = some text) ∧
        ∀ imported', (∀ symbol, symbol ∈ imported' ↔ symbol ∈ imported) →
          ∃ r', build names imported' aliases = .ok r' ∧
            ∀ text, r'.resolve? text = r.resolve? text) := by
  refine ⟨fun failure => build_eq_error_iff, fun hnames => ?_⟩
  obtain ⟨r, hr⟩ := build_total hnames imported aliases
  refine ⟨r, hr, resolve?_build hr, ?_, ?_⟩
  · intro text hexact
    rw [resolve?_build hr, meaning?_of_exact hexact]
  · intro imported' hsame
    obtain ⟨r', hr'⟩ := build_total hnames imported' aliases
    refine ⟨r', hr', fun text => ?_⟩
    rw [resolve?_build hr, resolve?_build hr']
    exact meaning?_congr hsame names aliases text

/-- A label that is named like a thunk, and two labels with one first word. -/
example : (build ["__imp_X".toList, "f (int)".toList, "f (char)".toList] ["X".toList]
      [("g".toList, "X".toList)]).map
        (fun r => ["__imp_X", "f", "g", "h"].map fun text => r.resolve? text.toList)
    = .ok [some "__imp_X".toList, some "f (int)".toList, some "X".toList, none] := by
  decide

end SymbolAtlas.Resolver
