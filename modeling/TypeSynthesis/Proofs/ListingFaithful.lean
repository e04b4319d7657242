/-
TypeSynthesis.Proofs.ListingFaithful — a listing tells what it lists.

Names stand in a listing as they are, without quotes: they may be empty and
hold blanks, brackets, colons. Still nothing is lost but the sort of a
local's type (an array of `X` and a value of `X[]` are written alike), as
long as no name holds a line feed, which would end a line, or a comma, which
would end a type in the written form of a shape.

* `Text.Without`, `cut_inj` — a text is cut in one way only at a separator
  whose first character does not stand before it.
* `Shape.text_inj`, `Operand.text_inj`, `Instruction.text_inj`,
  `Code.writtenLine_injective` — the printers, from the inside out.
* `Code.without_entries`, `Code.append_lines_inj` — an entry is one line, and
  its first character tells the locals from the instructions.
* `Code.listing_eq_iff` — when two finished bodies have the same listing.
-/
import Mathlib
import TypeSynthesis.Proofs.EncoderInvariant

namespace TypeSynthesis

/-! ## Cutting texts -/

namespace Text

variable {stop : Char} {sep s t rest more : String}

/-- The character does not stand in the text. -/
def Without (stop : Char) (s : String) : Prop := stop ∉ s.toList

instance : Decidable (Without stop s) := inferInstanceAs (Decidable (stop ∉ s.toList))

@[simp] theorem without_append : Without stop (s ++ t) ↔ Without stop s ∧ Without stop t := by
  simp [Without]

/-- A decimal numeral holds digits only. -/
theorem without_numeral (h : stop.isDigit = false) (n : Nat) : Without stop (toString n) := by
  intro hmem
  rw [show toString n = n.repr from rfl, Nat.repr_eq_ofList_toDigits, String.toList_ofList] at hmem
  rw [Nat.isDigit_of_mem_toDigits (by decide) (by decide) hmem] at h
  cases h

/-- The numeral of an integer may have a sign before it. -/
theorem without_integer (h : stop.isDigit = false) (hsign : stop ≠ '-') (n : Int) :
    Without stop (toString n) := by
  rw [Int.toString_eq_repr, Int.repr_eq_if]
  split
  · exact without_numeral h _
  · exact without_append.mpr ⟨by simp [Without, hsign], without_numeral h _⟩

theorem mem_toDigits {base n : Nat} {c : Char} (hbase : 1 < base) (h : c ∈ Nat.toDigits base n) :
    ∃ d < base, c = Nat.digitChar d := by
  induction n using Nat.strongRecOn with
  | ind n ih =>
    rw [Nat.toDigits_eq_if hbase] at h
    split at h
    · rename_i hlt
      exact ⟨n, hlt, List.mem_singleton.mp h⟩
    · rename_i hge
      rcases List.mem_append.mp h with h | h
      · exact ih (n / base) (Nat.div_lt_self (by omega) hbase) h
      · exact ⟨n % base, Nat.mod_lt _ (by omega), List.mem_singleton.mp h⟩

/-- A label stays on its line. -/
theorem without_upperHex (width n : Nat) : Without '\n' (upperHex width n) := by
  intro hmem
  rw [upperHex, String.toList_ofList, upperHexDigits, List.leftpad, List.mem_append] at hmem
  rcases hmem with hmem | hmem
  · exact absurd (List.eq_of_mem_replicate hmem) (by decide)
  · obtain ⟨c, hc, hfeed⟩ := List.mem_map.mp hmem
    obtain ⟨d, hd, rfl⟩ := mem_toDigits (by decide) hc
    have hdigits : ∀ d < 16, (Nat.digitChar d).toUpper ≠ '\n' := by decide
    exact hdigits d hd hfeed

theorem without_intercalate {names : List String} (hsep : Without stop sep)
    (h : ∀ n ∈ names, Without stop n) : Without stop (sep.intercalate names) := by
  induction names with
  | nil => simp [Without]
  | cons n rest ih =>
    have hn := h n List.mem_cons_self
    have hrest := ih fun m hm => h m (List.mem_cons_of_mem n hm)
    cases rest with
    | nil => simpa using hn
    | cons m rest =>
      rw [String.intercalate_cons_cons]
      exact without_append.mpr ⟨without_append.mpr ⟨hn, hsep⟩, hrest⟩

/-- A text is cut in one way only at a separator whose first character does
not stand before it. -/
theorem cut_inj (hsep : sep.toList.head? = some stop) (hs : Without stop s) (ht : Without stop t)
    (h : s ++ sep ++ rest = t ++ sep ++ more) : s = t ∧ rest = more := by
  obtain ⟨tail, hsep⟩ := List.head?_eq_some_iff.mp hsep
  have hlists := congrArg String.toList h
  simp only [String.toList_append, List.append_assoc, hsep, List.cons_append] at hlists
  have hst : s.toList = t.toList := by
    rcases List.append_eq_append_iff.mp hlists with ⟨mid, hmid, hcut⟩ | ⟨mid, hmid, hcut⟩
    all_goals
      cases mid with
      | nil => simp [hmid]
      | cons c mid =>
        -- The longer of the two would hold the first character of the separator.
        obtain ⟨rfl, -⟩ := List.cons.inj hcut
        simp_all [Without]
  obtain rfl := String.toList_inj.mp hst
  exact ⟨rfl, by simpa using h⟩

theorem not_without_intercalate (n m : String) (names : List String) :
    ¬Without ',' (", ".intercalate (n :: m :: names)) := by
  rw [String.intercalate_cons_cons, without_append, without_append]
  rintro ⟨⟨-, hsep⟩, -⟩
  exact absurd hsep (by decide)

/-- Texts with a comma and a blank between them can be told apart. -/
theorem intercalate_inj {names others : List String} (hn : names ≠ []) (ho : others ≠ [])
    (hnames : ∀ n ∈ names, Without ',' n) (hothers : ∀ n ∈ others, Without ',' n)
    (h : ", ".intercalate names = ", ".intercalate others) : names = others := by
  induction names generalizing others with
  | nil => exact absurd rfl hn
  | cons n names ih =>
    obtain ⟨m, others, rfl⟩ := List.exists_cons_of_ne_nil ho
    have hn' := hnames n List.mem_cons_self
    have hm' := hothers m List.mem_cons_self
    cases names with
    | nil =>
      cases others with
      | nil => simpa using h
      | cons m' others =>
        rw [String.intercalate_singleton] at h
        exact absurd (h ▸ hn') (not_without_intercalate m m' others)
    | cons n' names =>
      cases others with
      | nil =>
        rw [String.intercalate_singleton] at h
        exact absurd (h ▸ hm') (not_without_intercalate n n' names)
      | cons m' others =>
        rw [String.intercalate_cons_cons, String.intercalate_cons_cons] at h
        obtain ⟨rfl, hrest⟩ := cut_inj rfl hn' hm' h
        rw [ih (by simp) (by simp) (fun k hk => hnames k (List.mem_cons_of_mem n hk))
          (fun k hk => hothers k (List.mem_cons_of_mem n hk)) hrest]

/-- Lines can be told apart. -/
theorem lines_inj {lines others : List String} (hlines : ∀ l ∈ lines, Without '\n' l)
    (hothers : ∀ l ∈ others, Without '\n' l)
    (h : String.join (lines.map (· ++ "\n")) = String.join (others.map (· ++ "\n"))) :
    lines = others := by
  induction lines generalizing others with
  | nil =>
    cases others with
    | nil => rfl
    | cons m others => simpa using congrArg String.toList h
  | cons l lines ih =>
    cases others with
    | nil => simpa using congrArg String.toList h
    | cons m others =>
      simp only [List.map_cons, String.join_cons] at h
      obtain ⟨rfl, hrest⟩ :=
        cut_inj rfl (hlines l List.mem_cons_self) (hothers m List.mem_cons_self) h
      rw [ih (fun k hk => hlines k (List.mem_cons_of_mem l hk))
        (fun k hk => hothers k (List.mem_cons_of_mem l hk)) hrest]

end Text

open Text

/-! ## Names -/

/-- No name holds a line feed or a comma. -/
def PlainNames (names : List String) : Prop := ∀ n ∈ names, Without '\n' n ∧ Without ',' n

instance (names : List String) : Decidable (PlainNames names) :=
  inferInstanceAs (Decidable (∀ n ∈ names, Without '\n' n ∧ Without ',' n))

/-- The names of the types of a shape. -/
def Shape.names (s : Shape) : List String := s.mentions.map (·.full)

/-- The names in an operand. -/
def Operand.names : Operand → List String
  | type t => [t.full]
  | callable c => [c.text]
  | adapter s => s.names
  | none | int32 _ | argument _ | slot _ => []

/-- The names in the type of a local. -/
def LocalType.names : LocalType → List String
  | adapter s => s.names
  | array t | value t => [t.full]

/-- The names in a body: those of its operands and of the types of its
locals. -/
def Code.names (c : Code) : List String :=
  c.instructions.flatMap (·.operand.names) ++ c.locals.flatMap (·.type.names)

theorem PlainNames.operand {c : Code} (h : PlainNames c.names) {i : Instruction}
    (hi : i ∈ c.instructions) : PlainNames i.operand.names := fun n hn =>
  h n (List.mem_append_left _ (List.mem_flatMap.mpr ⟨i, hi, hn⟩))

theorem PlainNames.localType {c : Code} (h : PlainNames c.names) {l : Local}
    (hl : l ∈ c.locals) : PlainNames l.type.names := fun n hn =>
  h n (List.mem_append_right _ (List.mem_flatMap.mpr ⟨l, hl, hn⟩))

/-! ## Shapes -/

namespace Shape

variable {s t : Shape}

theorem text_eq (s : Shape) :
    s.text = s.family ++ if s.names = [] then "" else "<" ++ ", ".intercalate s.names ++ ">" := by
  rw [text, names]
  cases s.mentions with
  | nil => simp
  | cons t ts => simp [String.append_assoc]

theorem without_text (h : PlainNames s.names) : Without '\n' s.text := by
  have hfamily : Without '\n' s.family := by cases s <;> simp [family, Without]
  have hsep : Without '\n' ", " := by decide
  have hnames := without_intercalate hsep fun n hn => (h n hn).1
  rw [text_eq, without_append]
  refine ⟨hfamily, ?_⟩
  split
  · decide
  · exact without_append.mpr ⟨without_append.mpr ⟨by decide, hnames⟩, by decide⟩

/-- The family can be told by its first letter. -/
theorem family_eq_of_text_eq (h : s.text = t.text) : s.family = t.family := by
  have hhead := congrArg (·.toList.head?) h
  simp only [text_eq] at hhead
  cases s <;> cases t <;> first | rfl | simp [family] at hhead

/-- Family and names make up a shape: the result of a function is its last
name. -/
theorem eq_of_names_eq (hfamily : s.family = t.family) (hnames : s.names = t.names) : s = t := by
  have hmentions : s.mentions = t.mentions :=
    List.map_injective_iff.mpr (fun _ _ h => congrArg TypeName.mk h) hnames
  cases s with
  | action ps =>
    cases t with
    | action qs => simpa [mentions, Shape.parameters, result?] using hmentions
    | function qs r => simp [family] at hfamily
  | function ps q =>
    cases t with
    | action qs => simp [family] at hfamily
    | function qs r => simpa [mentions, Shape.parameters, result?] using hmentions

/-- Shapes can be told apart. An action without parameters has no brackets,
one whose only parameter has the empty name has two. -/
theorem text_inj (hs : PlainNames s.names) (ht : PlainNames t.names) (h : s.text = t.text) :
    s = t := by
  have hfamily := family_eq_of_text_eq h
  refine eq_of_names_eq hfamily ?_
  rw [text_eq, text_eq, hfamily, String.append_right_inj] at h
  split at h
  · rename_i hnone
    split at h
    · rename_i hnone'
      rw [hnone, hnone']
    · simpa using congrArg String.toList h
  · rename_i hsome
    split at h
    · simpa using congrArg String.toList h
    · rename_i hsome'
      rw [String.append_left_inj, String.append_right_inj] at h
      exact intercalate_inj hsome hsome' (fun n hn => (hs n hn).2) (fun n hn => (ht n hn).2) h

/-- A comma in a name would hide where the name ends. -/
example : (action [⟨"A, B"⟩]).text = (action [⟨"A"⟩, ⟨"B"⟩]).text := by decide

end Shape

/-! ## Instructions -/

/-- A slot is written with a letter, an underscore and digits. -/
theorem Slot.without_text {stop : Char} (hletters : Without stop "V_")
    (hdigit : stop.isDigit = false) (s : Slot) : Without stop s.text :=
  without_append.mpr ⟨hletters, without_numeral hdigit _⟩

namespace Operand

variable {a b : Operand}

theorem without_text (h : PlainNames a.names) : Without '\n' a.text := by
  cases a with
  | none => decide
  | int32 v => exact without_integer (by decide) (by decide) _
  | argument i => exact without_numeral (by decide) _
  | slot s => exact s.without_text (by decide) (by decide)
  | type t => exact (h t.full (by simp [names])).1
  | callable c => exact (h c.text (by simp [names])).1
  | adapter s => exact without_append.mpr ⟨Shape.without_text h, by decide⟩

/-- Only `none` is of no kind. -/
theorem kind_eq_none_iff : a.kind = .none ↔ a = none := by cases a <;> simp [kind]

end Operand

theorem Slot.text_inj {s t : Slot} (h : s.text = t.text) : s = t := by
  rw [text, text, String.append_right_inj] at h
  exact congrArg Slot.mk (UInt16.toNat_inj.mp (Nat.repr_inj.mp h))

/-- Operands of one kind can be told apart. -/
theorem Operand.text_inj {a b : Operand} (hkind : a.kind = b.kind) (ha : PlainNames a.names)
    (hb : PlainNames b.names) (h : a.text = b.text) : a = b := by
  cases a <;> cases b <;> simp only [kind, reduceCtorEq] at hkind
  case none => rfl
  case int32 v w => exact congrArg int32 (Int32.toInt_inj.mp (Int.repr_inj.mp h))
  case argument i j => exact congrArg argument (UInt16.toNat_inj.mp (Nat.repr_inj.mp h))
  case slot s t => exact congrArg slot (Slot.text_inj h)
  case type t u => exact congrArg (type ⟨·⟩) h
  case callable c d => exact congrArg (callable ⟨·⟩) h
  case adapter s t =>
    exact congrArg adapter (Shape.text_inj ha hb ((String.append_left_inj _).mp h))

namespace Instruction

variable {i j : Instruction}

theorem text_eq (i : Instruction) :
    i.text =
      i.opcode.mnemonic ++ if i.operand.kind = .none then "" else " " ++ i.operand.text := by
  cases h : i.operand <;> simp [text, h, Operand.kind, String.append_assoc]

theorem without_text (h : PlainNames i.operand.names) : Without '\n' i.text := by
  have hmnemonic : Without '\n' i.opcode.mnemonic := by cases i.opcode <;> decide
  rw [text_eq, without_append]
  refine ⟨hmnemonic, ?_⟩
  split
  · decide
  · exact without_append.mpr ⟨by decide, Operand.without_text h⟩

/-- The mnemonic ends at the first blank or with the text. -/
theorem opcode_eq_of_text_eq (h : i.text = j.text) : i.opcode = j.opcode := by
  have hcut (k : Instruction) : ∃ rest, k.text ++ " " = k.opcode.mnemonic ++ " " ++ rest := by
    rw [text_eq]
    split
    · exact ⟨"", by simp⟩
    · exact ⟨k.operand.text ++ " ", by simp [String.append_assoc]⟩
  have hblank (op : OpCode) : Without ' ' op.mnemonic := by cases op <;> decide
  obtain ⟨rest, hi⟩ := hcut i
  obtain ⟨more, hj⟩ := hcut j
  have hboth : i.opcode.mnemonic ++ " " ++ rest = j.opcode.mnemonic ++ " " ++ more := by
    rw [← hi, ← hj, h]
  exact OpCode.mnemonic_injective (cut_inj rfl (hblank _) (hblank _) hboth).1

/-- Instructions whose operands fit can be told apart. -/
theorem text_inj (hi : i.operand.kind = i.opcode.operand) (hj : j.operand.kind = j.opcode.operand)
    (hi' : PlainNames i.operand.names) (hj' : PlainNames j.operand.names) (h : i.text = j.text) :
    i = j := by
  have hop := opcode_eq_of_text_eq h
  have hkind : i.operand.kind = j.operand.kind := by rw [hi, hj, hop]
  have hoperand : i.operand = j.operand := by
    rw [text_eq, text_eq, hop, hkind, String.append_right_inj] at h
    split at h
    · rename_i hnone
      rw [Operand.kind_eq_none_iff.mp (hkind.trans hnone), Operand.kind_eq_none_iff.mp hnone]
    · exact Operand.text_inj hkind hi' hj' ((String.append_right_inj _).mp h)
  cases i
  cases j
  simp_all

end Instruction

/-! ## Locals -/

theorem LocalType.without_text {t : LocalType} (h : PlainNames t.names) : Without '\n' t.text := by
  cases t with
  | adapter s => exact Shape.without_text h
  | array t => exact without_append.mpr ⟨(h t.full (by simp [names])).1, by decide⟩
  | value t => exact (h t.full (by simp [names])).1

/-- A purpose can be told from the end of the line: what stands before it is
the type, which may hold anything. -/
theorem Purpose.text_inj {p q : Purpose} {s t : String}
    (h : s ++ " (" ++ p.text ++ ")" = t ++ " (" ++ q.text ++ ")") : p = q ∧ s = t := by
  have hends := congrArg (fun line => line.toList.reverse.take 2) h
  cases p <;> cases q <;> simp [text] at hends
  all_goals simpa using h

/-- What a listing tells of a local: its slot, its purpose and the written
form of its type. -/
def Local.written (l : Local) : Slot × Purpose × String := (l.slot, l.purpose, l.type.text)

namespace Code

/-- The line that is made of what it tells. -/
def writtenLine : Slot × Purpose × String → String
  | (slot, purpose, type) => ".local " ++ slot.text ++ " " ++ type ++ " (" ++ purpose.text ++ ")"

theorem localLine_eq : localLine = writtenLine ∘ Local.written := rfl

/-- The line of a local tells all that is written of it. -/
theorem writtenLine_injective : Function.Injective writtenLine := by
  rintro ⟨s, p, type⟩ ⟨t, q, other⟩ h
  have hslot (s : Slot) : Without ' ' s.text := s.without_text (by decide) (by decide)
  have hline : s.text ++ " " ++ (type ++ " (" ++ p.text ++ ")") =
      t.text ++ " " ++ (other ++ " (" ++ q.text ++ ")") := by
    simpa [writtenLine, String.append_assoc] using h
  obtain ⟨hst, hrest⟩ := cut_inj rfl (hslot s) (hslot t) hline
  obtain ⟨rfl, rfl⟩ := Purpose.text_inj hrest
  rw [Slot.text_inj hst]

theorem without_localLine {l : Local} (h : PlainNames l.type.names) :
    Without '\n' (localLine l) := by
  have hpurpose : Without '\n' l.purpose.text := by cases l.purpose <;> decide
  have hslot : Without '\n' l.slot.text := l.slot.without_text (by decide) (by decide)
  simp only [localLine, without_append]
  exact ⟨⟨⟨⟨⟨⟨by decide, hslot⟩, by decide⟩, LocalType.without_text h⟩, by decide⟩, hpurpose⟩,
    by decide⟩

theorem without_instructionLine {i : Instruction} (h : PlainNames i.operand.names)
    (position : Nat) : Without '\n' (instructionLine position i) := by
  simp only [instructionLine, without_append]
  exact ⟨⟨⟨by decide, without_upperHex 4 position⟩, by decide⟩, Instruction.without_text h⟩

/-! ## Listings -/

variable {c d : Code}

/-- The entries of a listing are lines. -/
theorem without_entries (h : PlainNames c.names) : ∀ line ∈ c.entries, Without '\n' line := by
  intro line hline
  rw [entries, List.mem_cons, List.mem_append, List.mem_map, List.mem_mapIdx] at hline
  obtain rfl | ⟨l, hl, rfl⟩ | ⟨k, hk, rfl⟩ := hline
  · exact without_append.mpr ⟨by decide, without_numeral (by decide) _⟩
  · exact without_localLine (h.localType hl)
  · exact without_instructionLine (h.operand (List.getElem_mem hk)) k

/-- The first character of a line tells whether it is that of a local. -/
theorem append_lines_inj {ls ks : List Local} {is js : List Instruction}
    (h : ls.map localLine ++ is.mapIdx instructionLine =
      ks.map localLine ++ js.mapIdx instructionLine) :
    ls.map localLine = ks.map localLine ∧
      is.mapIdx instructionLine = js.mapIdx instructionLine := by
  let dotted (line : String) : Bool := line.toList.head? == some '.'
  have hlocals (ls : List Local) : (ls.map localLine).filter dotted = ls.map localLine :=
    List.filter_eq_self.mpr fun line hline => by
      obtain ⟨l, -, rfl⟩ := List.mem_map.mp hline
      simp [dotted, localLine]
  have hinstructions (is : List Instruction) :
      (is.mapIdx instructionLine).filter dotted = [] :=
    List.filter_eq_nil_iff.mpr fun line hline => by
      obtain ⟨k, -, rfl⟩ := List.mem_mapIdx.mp hline
      simp [dotted, instructionLine]
  have hfirst : ls.map localLine = ks.map localLine := by
    simpa [List.filter_append, hlocals, hinstructions] using congrArg (List.filter dotted) h
  rw [hfirst, List.append_cancel_left_eq] at h
  exact ⟨hfirst, h⟩

/-- Instructions at one position have one label, so their lines differ where
they do. -/
theorem instructionLines_inj {is js : List Instruction}
    (his : ∀ i ∈ is, i.operand.kind = i.opcode.operand ∧ PlainNames i.operand.names)
    (hjs : ∀ j ∈ js, j.operand.kind = j.opcode.operand ∧ PlainNames j.operand.names)
    (h : is.mapIdx instructionLine = js.mapIdx instructionLine) : is = js := by
  have hlength : is.length = js.length := by simpa using congrArg List.length h
  refine List.ext_getElem hlength fun k hk hk' => ?_
  have hline : instructionLine k is[k] = instructionLine k js[k] := by
    simpa [hk, hk'] using congrArg (·[k]?) h
  obtain ⟨hkind, hplain⟩ := his _ (List.getElem_mem hk)
  obtain ⟨hkind', hplain'⟩ := hjs _ (List.getElem_mem hk')
  exact Instruction.text_inj hkind hkind' hplain hplain' ((String.append_right_inj _).mp hline)

/-- **A listing is faithful.** Take two finished bodies, each the outcome of
any requests, granted or refused, whose names are free of line feeds and
commas. They have one listing exactly when they have the same instructions,
the same greatest depth, and locals that agree in number, in slots and
purposes and in the written form of their types. -/
theorem listing_eq_iff {qs rs : List Request}
    (hc : (Encoder.fresh.afterAll qs).finalize = .ok c)
    (hd : (Encoder.fresh.afterAll rs).finalize = .ok d)
    (hcn : PlainNames c.names) (hdn : PlainNames d.names) :
    c.listing = d.listing ↔
      c.instructions = d.instructions ∧ c.maxStack = d.maxStack ∧
        c.locals.map (·.written) = d.locals.map (·.written) := by
  constructor
  · intro h
    have hentries := lines_inj (without_entries hcn) (without_entries hdn) h
    obtain ⟨hdepth, hlines⟩ := List.cons.inj hentries
    obtain ⟨hlocals, hinstructions⟩ := append_lines_inj hlines
    have hfits {c : Code} {qs : List Request} (hc : (Encoder.fresh.afterAll qs).finalize = .ok c)
        (hcn : PlainNames c.names) : ∀ i ∈ c.instructions,
        i.operand.kind = i.opcode.operand ∧ PlainNames i.operand.names := by
      obtain ⟨-, rfl⟩ := Encoder.finalize_eq_ok_iff.mp hc
      exact fun i hi => ⟨(Encoder.wellKept_afterAll qs).kind_eq i hi, hcn.operand hi⟩
    refine ⟨instructionLines_inj (hfits hc hcn) (hfits hd hdn) hinstructions, ?_, ?_⟩
    · exact Nat.repr_inj.mp ((String.append_right_inj _).mp hdepth)
    · rw [localLine_eq, ← List.map_map, ← List.map_map] at hlocals
      exact writtenLine_injective.list_map hlocals
  · rintro ⟨hinstructions, hdepth, hlocals⟩
    have hlines : c.locals.map localLine = d.locals.map localLine := by
      rw [localLine_eq, ← List.map_map, ← List.map_map]
      exact congrArg (List.map writtenLine) hlocals
    rw [listing, listing, entries, entries, hinstructions, hdepth, hlines]

/-- Writes to a body with a local of the given type and an adapter whose only
parameter has no name. -/
def nameless (t : LocalType) : List Request :=
  [.declareLocal .arguments t, .write .ldnull, .write (.newobj (.action [⟨""⟩])),
    .write (.stloc ⟨0⟩), .write .ret]

/-- Two bodies with one listing: an array of `X`, and a value of `X[]`. -/
theorem listing_eq_array_value :
    ∃ c d, (Encoder.fresh.afterAll (nameless (.array ⟨"X"⟩))).finalize = .ok c ∧
      (Encoder.fresh.afterAll (nameless (.value ⟨"X[]"⟩))).finalize = .ok d ∧
      c.listing = d.listing ∧ c ≠ d := by
  have hc : (Encoder.fresh.afterAll (nameless (.array ⟨"X"⟩))).finalize = .ok _ := rfl
  have hd : (Encoder.fresh.afterAll (nameless (.value ⟨"X[]"⟩))).finalize = .ok _ := rfl
  refine ⟨_, _, hc, hd, ?_, by decide +kernel⟩
  exact (listing_eq_iff hc hd (by decide +kernel) (by decide +kernel)).mpr (by decide +kernel)

end Code

end TypeSynthesis
