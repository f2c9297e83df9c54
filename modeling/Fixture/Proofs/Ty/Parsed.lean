import Fixture.Proofs.Ty.Reading
import Fixture.Proofs.Ty.Rules

/-!
# Types from texts

Names are read from a text one by one, and a name is applied only where at least one argument
follows. So a type that comes from a text follows all rules that the names in texts follow, and it
is proper: no name in it, however deep, is applied to nothing. No parameter comes from a text.
-/

namespace Fixture.Ty

/-- The rules hold of every name that is read from a text, on its own or before arguments. -/
def Rules.Textual (rules : Rules) : Prop :=
  ∀ ⦃text : List Char⦄ ⦃raw : String⦄ ⦃rest : { rest : List Char // rest.length < text.length }⦄,
    Parser.name text = .ok (raw, rest) → rules.named raw ∧ ∀ count, rules.applied raw (count + 1)

def Rules.proper : Rules where
  named _ := True
  applied _ count := count ≠ 0
  named_qualify _ _ h := h
  applied_qualify _ _ _ h := h

theorem Rules.textual_proper : proper.Textual := fun _ _ _ _ => ⟨trivial, Nat.succ_ne_zero⟩

variable {rules : Rules}

theorem Follows.bindParams {ty : Ty} (params : List String) (h : ty.Follows rules True) :
    (ty.bindParams params).Follows rules True := by
  induction h with
  | named hname =>
    rw [Ty.bindParams]
    split
    · exact .param trivial
    · exact .named hname
  | param hparams => exact .param hparams
  | applied hraw _ ih =>
    rw [Ty.bindParams, bindParamsAll_eq_map]
    refine .applied (by rwa [List.length_map]) fun arg harg => ?_
    obtain ⟨source, hsource, rfl⟩ := List.mem_map.1 harg
    exact ih source hsource

theorem follows_of_read {params : Prop} (hrules : rules.Textual) (size : Nat) :
    (∀ text ty left, text.length < size → Parser.Reads text ty left → ty.Follows rules params) ∧
      ∀ text args left, text.length < size → Parser.ReadsAll text args left →
        ∀ arg ∈ args, arg.Follows rules params := by
  -- The two readers call each other on shorter texts, so both are taken up to one length.
  induction size with
  | zero => exact ⟨fun _ _ _ hlength => by omega, fun _ _ _ hlength => by omega⟩
  | succ size ih =>
    obtain ⟨ihType, ihOthers⟩ := ih
    constructor
    · intro text ty left hlength h
      obtain ⟨raw, rest, hname, hcases⟩ := Parser.reads_iff.1 h
      have hrest := hname.length_lt
      obtain ⟨_, hname, -⟩ := hname
      obtain ⟨hnamed, happlied⟩ := hrules hname
      rcases hcases with ⟨-, rfl, -⟩ | ⟨inner, first, middle, others, hskip, hfirst, hothers, rfl⟩
      · exact .named hnamed
      · have hinner := Parser.length_of_skipSpace hskip
        have hmiddle := hfirst.length_lt
        refine .applied (happlied _) (List.forall_mem_cons.2 ⟨?_, ?_⟩)
        · exact ihType inner first middle (by omega) hfirst
        · exact ihOthers middle others _ (by omega) hothers
    · intro text args left hlength h
      rcases Parser.readsAll_iff.1 h with ⟨-, rfl, -⟩ |
        ⟨after, next, middle, others, hskip, hnext, hothers, rfl⟩
      · exact List.forall_mem_nil _
      · have hafter := Parser.length_of_skipSpace hskip
        have hmiddle := hnext.length_lt
        refine List.forall_mem_cons.2 ⟨?_, ?_⟩
        · exact ihType after next middle (by omega) hnext
        · exact ihOthers middle others left (by omega) hothers

theorem follows_of_parse {params : Prop} (hrules : rules.Textual) {text : String} {ty : Ty}
    (h : parse text = .ok ty) : ty.Follows rules params := by
  obtain ⟨left, hread, -⟩ := parse_ok_iff.1 h
  exact (follows_of_read hrules _).1 text.toList ty left (Nat.lt_succ_self _) hread

end Fixture.Ty
