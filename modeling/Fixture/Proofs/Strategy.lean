import Fixture.Proofs.Literal.Plain
import Fixture.Proofs.Literal.Quoted
import Fixture.Proofs.Random.Below
import Fixture.Proofs.Registry

/-!
# What the literals of the kinds look like

A strategy takes numbers from the source and puts them into a text of which all else is fixed. So
the form of a literal depends only on the bounds of the numbers: an index lies inside the alphabet,
a whole number below one hundred, and a byte below 256 before two of the bytes of an identifier get
their marks. Nothing is asked of the words in the source, nor of the number of draws that are
repeated.
-/

namespace Fixture

open Fixture.Random

/-! ### Several draws -/

theorem forall_mem_run_mapM {σ α β : Type} {take : α → StateM σ β} {sources : List α}
    (property : β → Prop)
    (h : ∀ source ∈ sources, ∀ state, property ((take source).run state).1) (state : σ) :
    ((sources.mapM take).run state).1.length = sources.length ∧
      ∀ result ∈ ((sources.mapM take).run state).1, property result := by
  induction sources generalizing state with
  | nil => exact ⟨rfl, List.forall_mem_nil _⟩
  | cons source rest ih =>
    obtain ⟨hsource, hrest⟩ := List.forall_mem_cons.1 h
    obtain ⟨hlength, hall⟩ := ih hrest ((take source).run state).2
    have hcons : (((source :: rest).mapM take).run state).1 =
        ((take source).run state).1 ::
          ((rest.mapM take).run ((take source).run state).2).1 := by
      rw [List.mapM_cons]
      rfl
    rw [hcons]
    exact ⟨congrArg (· + 1) hlength, List.forall_mem_cons.2 ⟨hsource state, hall⟩⟩

namespace Strategy

/-! ### Texts -/

theorem letters_isAlpha : ∀ c ∈ letters, c.isAlpha = true := List.all_eq_true.1 (by decide)

/-- The positions of the letters of a text. -/
def positions : StateM Supply (List Nat) :=
  (List.replicate 5 letters.length).mapM fun bound => Supply.draw (below64 bound)

theorem positions_lt (supply : Supply) :
    (positions.run supply).1.length = 5 ∧
      ∀ position ∈ (positions.run supply).1, position < letters.length := by
  have hbelow : ∀ bound ∈ List.replicate 5 letters.length, ∀ state : Supply,
      ((Supply.draw (below64 bound)).run state).1 < letters.length := by
    intro bound hbound state
    rw [List.eq_of_mem_replicate hbound]
    exact below64_lt (by decide) state.source
  obtain ⟨hlength, hpositions⟩ := forall_mem_run_mapM (· < letters.length) hbelow supply
  exact ⟨hlength.trans List.length_replicate, hpositions⟩

theorem text_form (supply : Supply) :
    ∃ drawn : List Char, drawn.length = 5 ∧ (∀ c ∈ drawn, c.isAlpha = true) ∧
      (positions.run supply).1.map (letters[·]?) = drawn.map some ∧
      (text.run supply).1 = "\"" ++ String.ofList drawn ++ "\"" := by
  obtain ⟨hlength, hpositions⟩ := positions_lt supply
  have hletter : ∀ position ∈ (positions.run supply).1,
      letters[position]? = some (letters.getD position 'A') := by
    intro position hposition
    rw [List.getD_eq_getElem?_getD, List.getElem?_eq_getElem (hpositions position hposition)]
    rfl
  have halpha : ∀ c ∈ (positions.run supply).1.map (letters.getD · 'A'), c.isAlpha = true :=
    List.forall_mem_map.2 fun position hposition =>
      letters_isAlpha _ (List.mem_of_getElem? (hletter position hposition))
  refine ⟨(positions.run supply).1.map (letters.getD · 'A'), ?_, halpha, ?_, ?_⟩
  · rw [List.length_map, hlength]
  · rw [List.map_map]
    exact List.map_congr_left hletter
  · have hplain := fun c hc => Literal.plain_of_isAlpha (halpha c hc)
    rw [← Literal.quote_of_plain (by rwa [String.toList_ofList])]
    rfl

/-! ### Numbers and truth values -/

theorem integer_form (supply : Supply) :
    ∃ number < 100, (integer.run supply).1 = Nat.repr number :=
  ⟨(below32 100 supply.source).1, below32_lt (by decide) supply.source, rfl⟩

theorem long_form (supply : Supply) :
    ∃ number < 100, (long.run supply).1 = Nat.repr number ++ "L" :=
  ⟨(below32 100 supply.source).1, below32_lt (by decide) supply.source, rfl⟩

theorem boolean_form (supply : Supply) :
    (boolean.run supply).1 = "true" ∨ (boolean.run supply).1 = "false" :=
  ite_eq_or_eq ((next64 supply.source).1 < Nat.pow 2 63) "true" "false"

/-! ### Identifiers -/

/-- The text of a random identifier: hexadecimal digits in five groups joined by hyphens, of which
the third begins with the version of the identifier and the fourth with its variant. -/
structure IsIdentifier (text : List Char) : Prop where
  length : text.length = 36
  groups : ∃ first second third fourth fifth : List Char,
    text = first ++ '-' :: (second ++ '-' :: (third ++ '-' :: (fourth ++ '-' :: fifth))) ∧
      first.length = 8 ∧ second.length = 4 ∧ third.length = 4 ∧ fourth.length = 4 ∧
      fifth.length = 12 ∧
      (∀ c ∈ first ++ second ++ third ++ fourth ++ fifth, Literal.IsHexDigit c) ∧
      third.head? = some '4' ∧ ∃ variant ∈ ['8', '9', 'a', 'b'], fourth.head? = some variant

/-- The hexadecimal digits of bytes. -/
def digitsOf (bytes : List Nat) : List Char := bytes.flatMap (Literal.hex 2)

theorem hex_byte {byte : Nat} (h : byte < 0x100) :
    Literal.hex 2 byte = [Nat.digitChar (byte / 16), Nat.digitChar (byte % 16)] := by
  rw [Literal.hex_succ 0, Literal.hex_one (by omega)]
  rfl

theorem isHexDigit_digitChar : ∀ value < 16, Literal.IsHexDigit (Nat.digitChar value) := by decide

variable {bytes : List Nat}

theorem length_digitsOf (h : ∀ byte ∈ bytes, byte < 0x100) :
    (digitsOf bytes).length = 2 * bytes.length := by
  induction bytes with
  | nil => rfl
  | cons byte rest ih =>
    obtain ⟨hbyte, hrest⟩ := List.forall_mem_cons.1 h
    rw [digitsOf, List.flatMap_cons, List.length_append, hex_byte hbyte]
    have hlength : (rest.flatMap (Literal.hex 2)).length = 2 * rest.length := ih hrest
    rw [hlength, List.length_cons, List.length_cons, List.length_cons, List.length_nil]
    omega

theorem isHexDigit_digitsOf (h : ∀ byte ∈ bytes, byte < 0x100) :
    ∀ c ∈ digitsOf bytes, Literal.IsHexDigit c := by
  intro c hc
  obtain ⟨byte, hbyte, hmem⟩ := List.mem_flatMap.1 hc
  have hlt := h byte hbyte
  rw [hex_byte hlt] at hmem
  simp only [List.mem_cons, List.not_mem_nil, or_false] at hmem
  rcases hmem with rfl | rfl
  · exact isHexDigit_digitChar _ (by omega)
  · exact isHexDigit_digitChar _ (by omega)

theorem head?_digitsOf {byte : Nat} (hhead : bytes.head? = some byte) (h : byte < 0x100) :
    (digitsOf bytes).head? = some (Nat.digitChar (byte / 16)) := by
  cases bytes with
  | nil => cases hhead
  | cons first rest =>
    cases hhead
    rw [digitsOf, List.flatMap_cons, hex_byte h]
    rfl

theorem marked_lt (h : ∀ byte ∈ bytes, byte < 0x100) : ∀ byte ∈ marked bytes, byte < 0x100 := by
  intro byte hbyte
  obtain ⟨position, hposition, rfl⟩ := List.mem_mapIdx.1 hbyte
  have hlt := h _ (List.getElem_mem hposition)
  split
  · omega
  · split
    · omega
    · exact hlt

theorem marked_version {byte : Nat} (h : bytes[6]? = some byte) :
    (marked bytes)[6]? = some (0x40 + byte % 0x10) := by
  rw [marked, List.getElem?_mapIdx, h]
  rfl

theorem marked_variant {byte : Nat} (h : bytes[8]? = some byte) :
    (marked bytes)[8]? = some (0x80 + byte % 0x40) := by
  rw [marked, List.getElem?_mapIdx, h]
  rfl

theorem variant_digits : ∀ value < 4, Nat.digitChar (8 + value) ∈ ['8', '9', 'a', 'b'] := by decide

theorem isIdentifier_grouped {version variant : Nat} (hlength : bytes.length = 16)
    (hbytes : ∀ byte ∈ bytes, byte < 0x100) (hsixth : bytes[6]? = some (0x40 + version))
    (hversion : version < 0x10) (heighth : bytes[8]? = some (0x80 + variant))
    (hvariant : variant < 0x40) : IsIdentifier (grouped [4, 2, 2, 2, 6] bytes) := by
  have hgroup : ∀ start size, ∀ byte ∈ (bytes.drop start).take size, byte < 0x100 :=
    fun start size byte hbyte => hbytes byte (List.mem_of_mem_drop (List.mem_of_mem_take hbyte))
  have hcount : ∀ start size, start + size ≤ 16 →
      (digitsOf ((bytes.drop start).take size)).length = 2 * size := by
    intro start size hle
    rw [length_digitsOf (hgroup start size), List.length_take, List.length_drop, hlength]
    omega
  have hhead : ∀ start size byte, bytes[start]? = some byte →
      (digitsOf ((bytes.drop start).take (size + 1))).head? =
        some (Nat.digitChar (byte / 16)) := by
    intro start size byte hbyte
    have hfirst : ((bytes.drop start).take (size + 1)).head? = some byte := by
      rw [List.head?_take, if_neg (Nat.succ_ne_zero size), List.head?_drop, hbyte]
    exact head?_digitsOf hfirst (hbytes byte (List.mem_of_getElem? hbyte))
  have hgroups : grouped [4, 2, 2, 2, 6] bytes =
      digitsOf ((bytes.drop 0).take 4) ++ '-' :: (digitsOf ((bytes.drop 4).take 2) ++
        '-' :: (digitsOf ((bytes.drop 6).take 2) ++ '-' :: (digitsOf ((bytes.drop 8).take 2) ++
          '-' :: digitsOf ((bytes.drop 10).take 6)))) := by
    simp [grouped, digitsOf, List.drop_drop]
  refine ⟨?_, _, _, _, _, _, hgroups, hcount 0 4 (by decide), hcount 4 2 (by decide),
    hcount 6 2 (by decide), hcount 8 2 (by decide), hcount 10 6 (by decide), ?_, ?_, ?_⟩
  · rw [hgroups]
    simp only [List.length_append, List.length_cons, hcount 0 4 (by decide),
      hcount 4 2 (by decide), hcount 6 2 (by decide), hcount 8 2 (by decide),
      hcount 10 6 (by decide)]
  · intro c hc
    simp only [List.mem_append] at hc
    rcases hc with (((hc | hc) | hc) | hc) | hc
    all_goals exact isHexDigit_digitsOf (hgroup _ _) c hc
  · have hfour : (0x40 + version) / 16 = 4 := by omega
    rw [hhead 6 1 _ hsixth, hfour]
    rfl
  · have height : (0x80 + variant) / 16 = 8 + variant / 16 := by omega
    rw [hhead 8 1 _ heighth, height]
    exact ⟨_, variant_digits _ (by omega), rfl⟩

theorem plain_of_isIdentifier {text : List Char} (h : IsIdentifier text) :
    ∀ c ∈ text, Literal.Plain c := by
  obtain ⟨first, second, third, fourth, fifth, rfl, -, -, -, -, -, hdigits, -⟩ := h.groups
  intro c hc
  have hcases : c = '-' ∨ c ∈ first ++ second ++ third ++ fourth ++ fifth := by
    simp only [List.mem_append, List.mem_cons] at hc ⊢
    tauto
  rcases hcases with rfl | hdigit
  · decide
  · exact Literal.plain_of_isHexDigit (hdigits c hdigit)

/-- The sixteen words that an identifier is made from. -/
def words : StateM Supply (List Nat) := (List.replicate 16 ()).mapM fun _ => Supply.draw next32

theorem length_words (supply : Supply) : (words.run supply).1.length = 16 := by
  have hany : ∀ place ∈ List.replicate 16 (), ∀ state : Supply,
      (fun _ : Nat => True) (((fun _ : Unit => Supply.draw next32) place).run state).1 :=
    fun _ _ _ => trivial
  exact (forall_mem_run_mapM (fun _ => True) hany supply).1.trans List.length_replicate

theorem run_uuid (supply : Supply) :
    (uuid.run supply).1 = "UUID.fromString(" ++ Literal.quote (String.ofList
      (grouped [4, 2, 2, 2, 6] (marked ((words.run supply).1.map (· % 0x100))))) ++ ")" := by
  have huuid : uuid = words >>= fun drawn => pure ("UUID.fromString(" ++ Literal.quote
      (String.ofList (grouped [4, 2, 2, 2, 6] (marked (drawn.map (· % 0x100))))) ++ ")") := rfl
  rw [huuid, StateT.run_bind]
  rfl

theorem uuid_form (supply : Supply) :
    ∃ digits : List Char, IsIdentifier digits ∧
      (uuid.run supply).1 = "UUID.fromString(\"" ++ String.ofList digits ++ "\")" := by
  have hlength : ((words.run supply).1.map (· % 0x100)).length = 16 :=
    (List.length_map _).trans (length_words supply)
  have hbytes : ∀ byte ∈ (words.run supply).1.map (· % 0x100), byte < 0x100 :=
    List.forall_mem_map.2 fun word _ => Nat.mod_lt word (by decide)
  have hrun := run_uuid supply
  generalize (words.run supply).1.map (· % 0x100) = bytes at hlength hbytes hrun
  have hidentifier : IsIdentifier (grouped [4, 2, 2, 2, 6] (marked bytes)) :=
    isIdentifier_grouped (List.length_mapIdx.trans hlength) (marked_lt hbytes)
      (marked_version (List.getElem?_eq_getElem (by omega : 6 < bytes.length)))
      (Nat.mod_lt _ (by decide))
      (marked_variant (List.getElem?_eq_getElem (by omega : 8 < bytes.length)))
      (Nat.mod_lt _ (by decide))
  refine ⟨_, hidentifier, ?_⟩
  rw [hrun, Literal.quote_of_plain (by
    rw [String.toList_ofList]
    exact plain_of_isIdentifier hidentifier)]
  simp only [String.append_assoc]
  rfl

end Strategy

/-! ### The kinds of the built-in registry -/

namespace Registry

open Strategy

/-- Literals of the built-in kinds are well formed, whatever the words of the source and however
often a draw is repeated. A text is five letters between quotes; a whole number lies below one
hundred, in decimal and for the long kind with its mark; a truth value is one of the two; an
identifier is the text of one in its call. The positions of the letters lie inside the alphabet; and
where the source has the patience for it, such a position and such a number are those that
repeating without a limit ends with. -/
theorem literal_builtin (catalog : Catalog) (name : String) (supply : Supply) :
    let drawn := ((builtin.literal catalog name).run.run supply).1
    (builtin.kind? catalog name = some "String" →
      ∃ drawnLetters : List Char, drawnLetters.length = 5 ∧
        (∀ c ∈ drawnLetters, c.isAlpha = true) ∧
          (positions.run supply).1.map (letters[·]?) = drawnLetters.map some ∧
            drawn = .ok ("\"" ++ String.ofList drawnLetters ++ "\"")) ∧
    (builtin.kind? catalog name = some "int" ∨ builtin.kind? catalog name = some "Integer" →
      ∃ number < 100, drawn = .ok (Nat.repr number)) ∧
    (builtin.kind? catalog name = some "long" ∨ builtin.kind? catalog name = some "Long" →
      ∃ number < 100, drawn = .ok (Nat.repr number ++ "L")) ∧
    (builtin.kind? catalog name = some "boolean" ∨ builtin.kind? catalog name = some "Boolean" →
      drawn = .ok "true" ∨ drawn = .ok "false") ∧
    (builtin.kind? catalog name = some "UUID" →
      ∃ digits : List Char, IsIdentifier digits ∧
        drawn = .ok ("UUID.fromString(\"" ++ String.ofList digits ++ "\")")) ∧
    (∀ source, (below64 letters.length source).1 < letters.length) ∧
    (∀ repetitions source position after,
      Repeated 64 letters.length next64 repetitions source position after →
        position < letters.length ∧
          (repetitions ≤ source.patience →
            below64 letters.length source = (position, after))) ∧
    ∀ repetitions source number after,
      Repeated 32 100 next32 repetitions source number after →
        number < 100 ∧
          (repetitions ≤ source.patience → below32 100 source = (number, after)) := by
  intro drawn
  have hdrawn : ∀ kind strategy, builtin.kind? catalog name = some kind →
      builtin.registered? kind = some strategy → drawn = .ok (strategy.run supply).1 :=
    fun kind strategy hkind hstrategy =>
      congrArg Prod.fst (literal_of_kind hkind hstrategy supply)
  refine ⟨fun hkind => ?text, fun hkind => ?integer, fun hkind => ?long, fun hkind => ?boolean,
    fun hkind => ?identifier, fun source => below64_lt (by decide) source, ?positions, ?numbers⟩
  case text =>
    obtain ⟨drawnLetters, hlength, halpha, hpositions, htext⟩ := text_form supply
    exact ⟨drawnLetters, hlength, halpha, hpositions, htext ▸ hdrawn _ text hkind rfl⟩
  case integer =>
    obtain ⟨number, hlt, hinteger⟩ := integer_form supply
    refine ⟨number, hlt, ?_⟩
    rw [← hinteger]
    exact hkind.elim (hdrawn _ integer · rfl) (hdrawn _ integer · rfl)
  case long =>
    obtain ⟨number, hlt, hlong⟩ := long_form supply
    refine ⟨number, hlt, ?_⟩
    rw [← hlong]
    exact hkind.elim (hdrawn _ long · rfl) (hdrawn _ long · rfl)
  case boolean =>
    have hboolean : drawn = .ok (boolean.run supply).1 :=
      hkind.elim (hdrawn _ boolean · rfl) (hdrawn _ boolean · rfl)
    rw [hboolean]
    exact (boolean_form supply).imp (congrArg _) (congrArg _)
  case identifier =>
    obtain ⟨digits, hdigits, huuid⟩ := uuid_form supply
    refine ⟨digits, hdigits, ?_⟩
    rw [← huuid]
    exact hdrawn _ uuid hkind rfl
  case positions =>
    intro repetitions source position after h
    exact ⟨h.lt (by decide) next64_lt, h.belowWithin_eq⟩
  case numbers =>
    intro repetitions source number after h
    exact ⟨h.lt (by decide) next32_lt, h.belowWithin_eq⟩

/-- A supply whose first word lies outside: the largest one, followed by zeros. -/
def reluctant : Supply :=
  ⟨⟨fun position => if position = 0 then 0xFFFFFFFF else 0, 0, 1⟩, .ofInstant 0⟩

theorem literal_builtin_reluctant :
    builtin.kind? .empty "java.lang.String" = some "String" ∧
      (∃ drawnLetters : List Char, drawnLetters.length = 5 ∧
        (∀ c ∈ drawnLetters, c.isAlpha = true) ∧
          (positions.run reluctant).1.map (letters[·]?) = drawnLetters.map some ∧
            ((builtin.literal .empty "java.lang.String").run.run reluctant).1 =
              .ok ("\"" ++ String.ofList drawnLetters ++ "\"")) ∧
      (∃ number < 100, ((builtin.literal .empty "int").run.run reluctant).1 =
        .ok (Nat.repr number)) ∧
      (∃ number < 100, ((builtin.literal .empty "Long").run.run reluctant).1 =
        .ok (Nat.repr number ++ "L")) ∧
      (((builtin.literal .empty "boolean").run.run reluctant).1 = .ok "true" ∨
        ((builtin.literal .empty "boolean").run.run reluctant).1 = .ok "false") ∧
      (∃ digits : List Char, IsIdentifier digits ∧
        ((builtin.literal .empty "UUID").run.run reluctant).1 =
          .ok ("UUID.fromString(\"" ++ String.ofList digits ++ "\")")) ∧
      accepts 32 100 (next32 reluctant.source).1 = false ∧
      below32 100 reluctant.source = (0, { reluctant.source with position := 2 }) := by
  have hkind : builtin.kind? .empty "java.lang.String" = some "String" := by decide +kernel
  have houtside : accepts 32 100 (next32 reluctant.source).1 = false := by decide +kernel
  have hrepeated : Repeated 32 100 next32 1 reluctant.source 0
      { reluctant.source with position := 2 } := .outside houtside (.inside (by decide +kernel))
  obtain ⟨htext, -⟩ := literal_builtin .empty "java.lang.String" reluctant
  obtain ⟨-, hinteger, -⟩ := literal_builtin .empty "int" reluctant
  obtain ⟨-, -, hlong, -⟩ := literal_builtin .empty "Long" reluctant
  obtain ⟨-, -, -, hboolean, -⟩ := literal_builtin .empty "boolean" reluctant
  obtain ⟨-, -, -, -, huuid, -, -, hnumbers⟩ := literal_builtin .empty "UUID" reluctant
  exact ⟨hkind, htext hkind, hinteger (.inl rfl), hlong (.inr rfl), hboolean (.inl rfl),
    huuid rfl, houtside, (hnumbers 1 reluctant.source 0 _ hrepeated).2 (le_refl 1)⟩

end Registry

end Fixture
