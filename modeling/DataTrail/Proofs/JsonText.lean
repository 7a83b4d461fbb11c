import DataTrail.Json.Printer
import DataTrail.Json.Reader

/-! Reading JSON text that was written. The reader builds each value from the tokens of the value,
and both written forms spell these tokens: the one without blanks, and the one on indented lines. So
a value is read from either form, unless it holds numbers, which may be written in any way. -/

namespace DataTrail.Json

theorem induct {motive : Json → Prop} (null : motive .null) (bool : ∀ b, motive (.bool b))
    (number : ∀ n, motive (.number n)) (string : ∀ l, motive (.string l))
    (array : ∀ items, (∀ v ∈ items, motive v) → motive (.array items))
    (object : ∀ members, (∀ m ∈ members, motive m.2) → motive (.object members)) :
    ∀ v, motive v
  | .null => null
  | .bool b => bool b
  | .number n => number n
  | .string l => string l
  | .array items => array items fun v _ => induct null bool number string array object v
  | .object members => object members fun m _ => induct null bool number string array object m.2
termination_by v => sizeOf v
decreasing_by
  · have := List.sizeOf_lt_of_mem ‹_›
    simp only [Json.array.sizeOf_spec]
    omega
  · have := List.sizeOf_lt_of_mem ‹_›
    cases m
    simp only [Json.object.sizeOf_spec, Prod.mk.sizeOf_spec] at this ⊢
    omega

mutual

/-- The tokens of a value. -/
def tokens : Json → List Token
  | .null => [.null]
  | .bool b => [.bool b]
  | .number n => [.number n]
  | .string l => [.string l]
  | .array items => .openArray :: itemTokens items ++ [.closeArray]
  | .object members => .openObject :: memberTokens members ++ [.closeObject]

def itemTokens : List Json → List Token
  | [] => []
  | [v] => tokens v
  | v :: rest => tokens v ++ .comma :: itemTokens rest

def memberTokens : List (Literal × Json) → List Token
  | [] => []
  | [(k, v)] => .string k :: .colon :: tokens v
  | (k, v) :: rest => .string k :: .colon :: tokens v ++ .comma :: memberTokens rest

end

section Reading

/-- The next value that is read in a state goes to the top of a stack. -/
inductive Awaits : State → List Frame → Prop
  | value (stack : List Frame) : Awaits (.value stack) stack
  | arrayOpened (stack : List Frame) : Awaits (.arrayOpened stack) (.element [] :: stack)

variable {s : State} {stack : List Frame}

theorem Awaits.step? (awaits : Awaits s stack) {t : Token} (opens : t ≠ .closeArray) :
    Json.step? s t = begin? stack t := by
  cases awaits with
  | value => rw [Json.step?]
  | arrayOpened => rw [Json.step?]; exact opens

@[simp]
theorem step?_colon (before : List (Literal × Json)) (k : Literal) :
    step? (.colon before k stack) .colon = some (.value (.member before k :: stack)) := rfl

@[simp]
theorem step?_nextElement (items : List Json) :
    step? (.afterElement items stack) .comma = some (.value (.element items :: stack)) := rfl

@[simp]
theorem step?_closeArray (items : List Json) :
    step? (.afterElement items stack) .closeArray = some (fill (.array items.reverse) stack) := rfl

@[simp]
theorem step?_nextMember (members : List (Literal × Json)) :
    step? (.afterMember members stack) .comma = some (.key members stack) := rfl

@[simp]
theorem step?_closeObject (members : List (Literal × Json)) :
    step? (.afterMember members stack) .closeObject =
      some (fill (.object members.reverse) stack) := rfl

/-- The reader takes the tokens of a value as that value, wherever one is awaited. -/
def Reads (v : Json) : Prop :=
  ∀ s stack, Awaits s stack → v.tokens.foldlM step? s = some (fill v stack)

theorem foldlM_itemTokens {items : List Json} (reads : ∀ v ∈ items, Reads v) (given : items ≠ [])
    {before : List Json} (awaits : Awaits s (.element before :: stack)) :
    (itemTokens items).foldlM step? s =
      some (.afterElement (items.reverse ++ before) stack) := by
  induction items generalizing s before with
  | nil => contradiction
  | cons v rest ih =>
    have first := reads v List.mem_cons_self s _ awaits
    cases rest with
    | nil => exact first
    | cons w rest =>
      have others := ih (fun u mem => reads u (List.mem_cons_of_mem _ mem)) (List.cons_ne_nil _ _)
        (.value (.element (v :: before) :: stack))
      simp [itemTokens, first, fill, others]

theorem foldlM_memberTokens {members : List (Literal × Json)} (reads : ∀ m ∈ members, Reads m.2)
    (given : members ≠ []) {before : List (Literal × Json)}
    (awaits : ∀ k, step? s (.string k) = some (.colon before k stack)) :
    (memberTokens members).foldlM step? s =
      some (.afterMember (members.reverse ++ before) stack) := by
  induction members generalizing s before with
  | nil => contradiction
  | cons m rest ih =>
    obtain ⟨k, v⟩ := m
    have first := reads (k, v) List.mem_cons_self _ _ (.value (.member before k :: stack))
    cases rest with
    | nil => simpa [memberTokens, awaits, fill] using first
    | cons m' rest =>
      have others := ih (s := .key ((k, v) :: before) stack)
        (fun u mem => reads u (List.mem_cons_of_mem _ mem)) (List.cons_ne_nil _ _) fun _ => rfl
      simp [memberTokens, awaits, first, fill, others]

theorem reads (v : Json) : Reads v := by
  intro s stack awaits
  induction v using induct generalizing s stack with
  | null => simp [tokens, awaits.step?, begin?]
  | bool b => simp [tokens, awaits.step?, begin?]
  | number n => simp [tokens, awaits.step?, begin?]
  | string l => simp [tokens, awaits.step?, begin?]
  | array items ih =>
    have opened : step? s .openArray = some (.arrayOpened stack) := awaits.step? (by simp)
    cases items with
    | nil => simp [tokens, itemTokens, opened]; rfl
    | cons v rest =>
      have inner := foldlM_itemTokens (fun v mem => ih v mem) (List.cons_ne_nil _ _)
        (.arrayOpened stack)
      simp [tokens, opened, inner]
  | object members ih =>
    have opened : step? s .openObject = some (.objectOpened stack) := awaits.step? (by simp)
    cases members with
    | nil => simp [tokens, memberTokens, opened]; rfl
    | cons m rest =>
      have inner := foldlM_memberTokens (s := .objectOpened stack) (fun m mem => ih m mem)
        (List.cons_ne_nil _ _) fun _ => rfl
      simp [tokens, opened, inner]

/-- The tokens of a value spell it. -/
theorem ofTokens?_tokens (v : Json) : ofTokens? v.tokens = some v := by
  rw [ofTokens?, reads v _ _ (.value [])]
  rfl

end Reading

/-- A value without numbers. -/
inductive Numberless : Json → Prop
  | null : Numberless .null
  | bool (b : Bool) : Numberless (.bool b)
  | string (l : Literal) : Numberless (.string l)
  | array (items : List Json) (each : ∀ v ∈ items, Numberless v) : Numberless (.array items)
  | object (members : List (Literal × Json)) (each : ∀ m ∈ members, Numberless m.2) :
      Numberless (.object members)

section Literals

theorem hexDigit?_hexChar : ∀ n < 16, hexDigit? (hexChar n) = some n := by decide

theorem hexUnit?_hexChar {n : Nat} (small : n < 0x20) :
    hexUnit? '0' '0' (hexChar (n / 16)) (hexChar (n % 16)) = some n := by
  have zero : hexDigit? '0' = some 0 := rfl
  have whole : n / 16 * 16 + n % 16 = n := by omega
  simp [hexUnit?, zero, hexDigit?_hexChar (n / 16) (by omega),
    hexDigit?_hexChar (n % 16) (by omega), whole]

/-- The piece that an escaped character is read as. -/
def Piece.ofChar (c : Char) : Piece :=
  if c.toNat < 0x20 ∧ c ∉ ['\x08', '\x0c', '\n', '\r', '\t'] then .unit c.toNat else .char c

theorem literalPieces?_escapeChar (c : Char) (read : List Piece) (rest : List Char) :
    literalPieces? read (escapeChar c ++ rest) = literalPieces? (.ofChar c :: read) rest := by
  unfold escapeChar
  iterate 7
    split
    next found =>
      subst found
      simp [literalPieces?, shortEscape?, Piece.ofChar]
  split
  next low =>
    have : Piece.ofChar c = .unit c.toNat := if_pos (by simp_all)
    simp [literalPieces?, hexUnit?_hexChar low, this]
  next high =>
    have : Piece.ofChar c = .char c := if_neg (by simp_all)
    simp [literalPieces?, *]

theorem literalPieces?_flatMap (cs : List Char) (read : List Piece) (rest : List Char) :
    literalPieces? read (cs.flatMap escapeChar ++ '"' :: rest) =
      some (read.reverse ++ cs.map .ofChar, rest) := by
  induction cs generalizing read with
  | nil => simp [literalPieces?]
  | cons c cs ih => simp [literalPieces?_escapeChar, ih]

theorem characters?_unit {u : Nat} (low : u < 0x20) (read : List Char) (rest : List Piece) :
    Piece.characters? read (.unit u :: rest) =
      Piece.characters? (Char.ofNat u :: read) rest := by
  have high : isHighSurrogate u = false := by simp [isHighSurrogate]; omega
  have second : isLowSurrogate u = false := by simp [isLowSurrogate]; omega
  rcases rest with _ | ⟨_ | _, _⟩ <;> simp [Piece.characters?, high, second]

theorem characters?_ofChar (cs : List Char) (read : List Char) :
    Piece.characters? read (cs.map .ofChar) = some (read.reverse ++ cs) := by
  induction cs generalizing read with
  | nil => simp [Piece.characters?]
  | cons c rest ih =>
    rw [List.map_cons, Piece.ofChar]
    split
    next low => simp [characters?_unit low.1, ih]
    next => simp [Piece.characters?, ih]

/-- A literal is read up to its closing quote. -/
theorem literal?_render (l : Literal) :
    ∃ body, l.render.toList = '"' :: body ∧
      ∀ rest, literal? (body ++ rest) = some (l, rest) := by
  cases l with
  | none => exact ⟨['\\', 'u', 'd', '8', '0', '0', '"'], rfl, fun _ => rfl⟩
  | some text =>
    refine ⟨text.toList.flatMap escapeChar ++ ['"'], by simp [Literal.render], fun rest => ?_⟩
    simp [literal?, literalPieces?_flatMap, Piece.literal, characters?_ofChar]

end Literals

section Spelling

/-- A text is cut into the given tokens, whatever follows it. -/
def Spells (cs : List Char) (ts : List Token) : Prop :=
  ∀ found rest, Token.scanFrom? found (cs ++ rest) = Token.scanFrom? (ts.reverse ++ found) rest

theorem Spells.append {cs ds : List Char} {ts us : List Token} (first : Spells cs ts)
    (second : Spells ds us) : Spells (cs ++ ds) (ts ++ us) := by
  intro found rest
  rw [List.append_assoc, first, second, List.reverse_append, List.append_assoc]

theorem Spells.scan? {cs : List Char} {ts : List Token} (spells : Spells cs ts) :
    Token.scan? cs = some ts := by
  have scanned := spells [] []
  simpa [Token.scan?, Token.scanFrom?] using scanned

theorem spells_nil : Spells [] [] := fun _ _ => rfl

theorem spells_blank {c : Char} (blank : isBlank c = true) : Spells [c] [] := by
  intro found rest
  rw [List.singleton_append, Token.scanFrom?, if_pos blank]
  rfl

theorem spells_token {c : Char} {cs : List Char} {t : Token} (visible : isBlank c = false)
    (next : ∀ rest, Token.next? (c :: (cs ++ rest)) = some (t, rest)) : Spells (c :: cs) [t] := by
  intro found rest
  rw [List.cons_append, Token.scanFrom?, if_neg (by simp [visible])]
  split
  next missing => simp [next] at missing
  next found' =>
    rw [next] at found'
    cases found'
    rfl

theorem spells_indent (level : Nat) : Spells (indent level).toList [] := by
  rw [indent, String.toList_ofList]
  generalize 2 * level = n
  induction n with
  | zero => exact spells_nil
  | succ n ih => exact (spells_blank (c := ' ') rfl).append ih

theorem spells_literal (l : Literal) : Spells l.render.toList [.string l] := by
  obtain ⟨body, text, read⟩ := literal?_render l
  rw [text]
  exact spells_token rfl fun rest => by simp [Token.next?, read]

theorem spells_openArray : Spells "[".toList [.openArray] := spells_token rfl fun _ => rfl

theorem spells_closeArray : Spells "]".toList [.closeArray] := spells_token rfl fun _ => rfl

theorem spells_openObject : Spells "\x7b".toList [.openObject] := spells_token rfl fun _ => rfl

theorem spells_closeObject : Spells "\x7d".toList [.closeObject] := spells_token rfl fun _ => rfl

theorem spells_comma : Spells ",".toList [.comma] := spells_token rfl fun _ => rfl

theorem spells_colon : Spells ":".toList [.colon] := spells_token rfl fun _ => rfl

theorem spells_lineEnd : Spells "\n".toList [] := spells_blank rfl

theorem spells_null : Spells "null".toList [.null] := spells_token rfl fun _ => rfl

theorem spells_bool (b : Bool) : Spells (if b then "true" else "false").toList [.bool b] := by
  cases b with
  | true => exact spells_token rfl fun _ => rfl
  | false => exact spells_token rfl fun _ => rfl

/-- What joins the parts for the elements of a list one by one joins them all. -/
theorem eq_intercalate {α β : Type} {sep : List β} {part : α → List β} {whole : List α → List β}
    (nil : whole [] = []) (single : ∀ a, whole [a] = part a)
    (cons : ∀ a b rest, whole (a :: b :: rest) = part a ++ sep ++ whole (b :: rest))
    (as : List α) : whole as = sep.intercalate (as.map part) := by
  induction as with
  | nil => exact nil
  | cons a rest ih =>
    cases rest with
    | nil => simp [single]
    | cons b rest => simp only [cons, ih, List.map_cons, List.intercalate_cons_cons]

theorem spells_intercalate {α : Type} {sep : List Char} (comma : Spells sep [.comma])
    {as : List α} {text : α → List Char} {parts : α → List Token}
    (each : ∀ a ∈ as, Spells (text a) (parts a)) :
    Spells (sep.intercalate (as.map text)) ([.comma].intercalate (as.map parts)) := by
  induction as with
  | nil => exact spells_nil
  | cons a rest ih =>
    have first := each a List.mem_cons_self
    have others := ih fun b mem => each b (List.mem_cons_of_mem _ mem)
    cases rest with
    | nil => simpa using first
    | cons b rest =>
      simp only [List.map_cons, List.intercalate_cons_cons] at others ⊢
      exact (first.append comma).append others

theorem itemTokens_eq : ∀ items, itemTokens items = [.comma].intercalate (items.map tokens) :=
  eq_intercalate rfl (fun _ => rfl) fun _ _ _ => by simp [itemTokens]

theorem memberTokens_eq : ∀ members, memberTokens members =
    [.comma].intercalate (members.map fun m => .string m.1 :: .colon :: m.2.tokens) :=
  eq_intercalate rfl (fun _ => rfl) fun _ _ _ => by simp [memberTokens]

theorem compactItems_eq : ∀ items, (compactItems items).toList =
    ",".toList.intercalate (items.map fun v => v.compact.toList) :=
  eq_intercalate rfl (fun _ => rfl) fun _ _ _ => by simp [compactItems]

theorem compactMembers_eq : ∀ members, (compactMembers members).toList =
    ",".toList.intercalate (members.map fun m =>
      m.1.render.toList ++ (":".toList ++ m.2.compact.toList)) :=
  eq_intercalate rfl (fun _ => by simp [compactMembers]) fun _ _ _ => by simp [compactMembers]

theorem prettyItems_eq (level : Nat) : ∀ items, (prettyItems level items).toList =
    ",\n".toList.intercalate
      (items.map fun v => (indent level).toList ++ (v.pretty level).toList) :=
  eq_intercalate rfl (fun _ => by simp [prettyItems]) fun _ _ _ => by simp [prettyItems]

theorem prettyMembers_eq (level : Nat) : ∀ members, (prettyMembers level members).toList =
    ",\n".toList.intercalate (members.map fun m => (indent level).toList ++
      (m.1.render.toList ++ (":".toList ++ (" ".toList ++ (m.2.pretty level).toList)))) :=
  eq_intercalate rfl (fun _ => by simp [prettyMembers]) fun _ _ _ => by simp [prettyMembers]

/-- The form without blanks spells the tokens of a value. -/
theorem Numberless.spells_compact {v : Json} (numberless : Numberless v) :
    Spells v.compact.toList v.tokens := by
  induction numberless with
  | null => exact spells_null
  | bool b => exact spells_bool b
  | string l => exact spells_literal l
  | array items _ ih =>
    have inner := spells_intercalate spells_comma ih
    simp only [compact, tokens, String.toList_append, List.append_assoc, compactItems_eq,
      itemTokens_eq]
    exact spells_openArray.append (inner.append spells_closeArray)
  | object members _ ih =>
    have inner := spells_intercalate spells_comma fun m mem =>
      (spells_literal m.1).append (spells_colon.append (ih m mem))
    simp only [compact, tokens, String.toList_append, List.append_assoc, compactMembers_eq,
      memberTokens_eq]
    exact spells_openObject.append (inner.append spells_closeObject)

/-- The form on indented lines spells the tokens of a value. -/
theorem Numberless.spells_pretty {v : Json} (numberless : Numberless v) (level : Nat) :
    Spells (v.pretty level).toList v.tokens := by
  have separator : Spells ",\n".toList [.comma] := spells_comma.append spells_lineEnd
  have ending (level : Nat) := spells_lineEnd.append (spells_indent level)
  induction numberless generalizing level with
  | null => exact spells_null
  | bool b => exact spells_bool b
  | string l => exact spells_literal l
  | array items _ ih =>
    cases items with
    | nil =>
      rw [pretty, tokens, itemTokens]
      exact spells_openArray.append spells_closeArray
    | cons v rest =>
      have inner := spells_intercalate separator fun u mem =>
        (spells_indent (level + 1)).append (ih u mem (level + 1))
      simp only [pretty, tokens, String.toList_append, List.append_assoc, prettyItems_eq,
        itemTokens_eq]
      exact (spells_openArray.append spells_lineEnd).append
        (inner.append ((ending level).append spells_closeArray))
  | object members _ ih =>
    cases members with
    | nil =>
      rw [pretty, tokens, memberTokens]
      exact spells_openObject.append spells_closeObject
    | cons m rest =>
      have inner := spells_intercalate separator fun u mem =>
        (spells_indent (level + 1)).append ((spells_literal u.1).append
          (spells_colon.append ((spells_blank (c := ' ') rfl).append (ih u mem (level + 1)))))
      simp only [pretty, tokens, String.toList_append, List.append_assoc, prettyMembers_eq,
        memberTokens_eq]
      exact (spells_openObject.append spells_lineEnd).append
        (inner.append ((ending level).append spells_closeObject))

end Spelling

/-- What is written without blanks is read as the same value. -/
theorem Numberless.parse?_compact {v : Json} (numberless : Numberless v) :
    parse? v.compact = some v := by
  rw [parse?, numberless.spells_compact.scan?, Option.bind_some, ofTokens?_tokens]

/-- What is written on indented lines is read as the same value. -/
theorem Numberless.parse?_pretty {v : Json} (numberless : Numberless v) :
    parse? (v.pretty 0 ++ "\n") = some v := by
  have spells := (numberless.spells_pretty 0).append spells_lineEnd
  rw [parse?, String.toList_append, spells.scan?, List.append_nil, Option.bind_some,
    ofTokens?_tokens]

section Lines

theorem hexChar_ne_lineEnd : ∀ n < 16, hexChar n ≠ '\n' := by decide

theorem lineEnd_not_mem_escapeChar (c : Char) : '\n' ∉ escapeChar c := by
  unfold escapeChar
  iterate 7
    split
    next => decide
  split
  next low =>
    have first := hexChar_ne_lineEnd (c.toNat / 16) (by omega)
    have second := hexChar_ne_lineEnd (c.toNat % 16) (by omega)
    simp [first.symm, second.symm]
  next => simp_all [eq_comm]

theorem lineEnd_not_mem_render (l : Literal) : '\n' ∉ l.render.toList := by
  cases l with
  | none => decide
  | some text =>
    have escaped : ∀ c ∈ text.toList, '\n' ∉ escapeChar c := fun c _ => lineEnd_not_mem_escapeChar c
    simpa [Literal.render] using escaped

theorem not_mem_intercalate {α : Type} {a : α} {sep : List α} {parts : List (List α)}
    (apart : a ∉ sep) (each : ∀ part ∈ parts, a ∉ part) : a ∉ sep.intercalate parts := by
  induction parts with
  | nil => simp
  | cons part rest ih =>
    have others := ih fun other mem => each other (List.mem_cons_of_mem _ mem)
    cases rest with
    | nil => simpa using each part List.mem_cons_self
    | cons next rest =>
      simp only [List.intercalate_cons_cons, List.mem_append, not_or]
      exact ⟨⟨each part List.mem_cons_self, apart⟩, others⟩

/-- The form without blanks stands on one line. -/
theorem Numberless.lineEnd_not_mem_compact {v : Json} (numberless : Numberless v) :
    '\n' ∉ v.compact.toList := by
  have comma : '\n' ∉ ",".toList := by decide
  induction numberless with
  | null => decide
  | bool b => cases b <;> decide
  | string l => exact lineEnd_not_mem_render l
  | array items _ ih =>
    have inner := not_mem_intercalate comma (List.forall_mem_map.mpr ih)
    simp only [compact, String.toList_append, compactItems_eq, List.mem_append, not_or]
    exact ⟨⟨by decide, inner⟩, by decide⟩
  | object members _ ih =>
    have each : ∀ m ∈ members, '\n' ∉ m.1.render.toList ++ (":".toList ++ m.2.compact.toList) := by
      intro m mem
      simpa using ⟨lineEnd_not_mem_render m.1, ih m mem⟩
    have inner := not_mem_intercalate comma (List.forall_mem_map.mpr each)
    simp only [compact, String.toList_append, compactMembers_eq, List.mem_append, not_or]
    exact ⟨⟨by decide, inner⟩, by decide⟩

end Lines

end DataTrail.Json
