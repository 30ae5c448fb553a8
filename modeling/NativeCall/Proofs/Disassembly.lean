import Mathlib.Data.List.Forall2
import NativeCall.Proofs.Execution
import NativeCall.Proofs.Outcome

/-!
# Disassembly

A disassembler decodes one instruction after the other until no byte is left. Assembled code
is read back as the instructions that it was made of. A step may be several instructions; its
bytes are read in the same way alone and between the bytes of other steps.
-/

namespace NativeCall
namespace InstructionSet

variable {instr operation : Type}

/-- The operations that some bytes consist of, if all of the bytes can be read. -/
def disassemble (isa : InstructionSet instr operation) (bytes : List Byte) :
    Option (List operation) :=
  match bytes with
  | [] => some []
  | first :: others =>
      match isa.decode (first :: others) with
      | none => none
      | some (operation, rest) =>
          if _shorter : rest.length < (first :: others).length then
            (isa.disassemble rest).map (operation :: ·)
          else
            none
termination_by bytes.length
decreasing_by exact _shorter

variable {isa : InstructionSet instr operation}

theorem disassemble_nil : isa.disassemble [] = some [] := by
  rw [disassemble]

theorem disassemble_cons {first : Byte} {others rest : List Byte} {read : operation}
    (hdecode : isa.decode (first :: others) = some (read, rest))
    (hshorter : rest.length ≤ others.length) :
    isa.disassemble (first :: others) = (isa.disassemble rest).map (read :: ·) := by
  rw [disassemble, hdecode]
  exact dif_pos (Nat.lt_succ_of_le hshorter)

theorem disassemble_congr {other : Type} {isa' : InstructionSet other operation}
    (hdecode : isa.decode = isa'.decode) (bytes : List Byte) :
    isa.disassemble bytes = isa'.disassemble bytes := by
  fun_induction isa.disassemble bytes with
  | case1 => exact disassemble_nil.symm
  | case2 first others hread =>
      rw [hdecode] at hread
      rw [disassemble, hread]
  | case3 first others read rest hread hshorter ih =>
      rw [hdecode] at hread
      rw [disassemble_cons hread (Nat.le_of_lt_succ hshorter), ih]
  | case4 first others read rest hread hlonger =>
      rw [hdecode] at hread
      rw [disassemble, hread]
      simp only [hlonger, dite_false]

theorem assemble_cons_eq_ok {i : instr} {code : List instr} {bytes : List Byte}
    (h : isa.assemble (i :: code) = .ok bytes) :
    exists first others, isa.encode i = .ok first ∧ isa.assemble code = .ok others ∧
      bytes = first ++ others := by
  rcases bind_eq_ok h with ⟨first, hfirst, h⟩
  rcases bind_eq_ok h with ⟨others, hothers, h⟩
  cases h
  exact ⟨first, others, hfirst, hothers, rfl⟩

theorem exists_assemble_eq_error {i : instr} {code : List instr} {fault : Fault} (hmem : i ∈ code)
    (hfault : isa.encode i = .error fault) : exists fault, isa.assemble code = .error fault := by
  cases hcode : isa.assemble code with
  | error first => exact ⟨first, rfl⟩
  | ok bytes =>
      induction code generalizing bytes with
      | nil => cases hmem
      | cons first rest ih =>
          rcases assemble_cons_eq_ok hcode with ⟨_, others, hfirst, hrest, _⟩
          rcases List.mem_cons.mp hmem with rfl | hlater
          · rw [hfault] at hfirst
            cases hfirst
          · rcases ih hlater others hrest with ⟨_, herror⟩
            cases herror

theorem assemble_append_of_eq_ok {code rest : List instr} {first others : List Byte}
    (hcode : isa.assemble code = .ok first) (hrest : isa.assemble rest = .ok others) :
    isa.assemble (code ++ rest) = .ok (first ++ others) := by
  induction code generalizing first with
  | nil =>
      cases hcode
      exact hrest
  | cons i code ih =>
      rcases assemble_cons_eq_ok hcode with ⟨bytes, later, hbytes, hlater, rfl⟩
      rw [List.cons_append, assemble, hbytes, ih hlater, List.append_assoc]
      rfl

section ReadBack

variable (hnil : isa.decode [] = none)

include hnil

/-- An instruction is read off the front, so the bytes behind it do not matter. -/
theorem disassemble_encode_append {i : instr} {bytes : List Byte} (hencodable : isa.Encodable i)
    (hbytes : isa.encode i = .ok bytes) (rest : List Byte) :
    isa.disassemble (bytes ++ rest) = (isa.disassemble rest).map (isa.meaning i :: ·) := by
  rcases isa.readsBack i hencodable with ⟨written, hwritten, hread⟩
  rw [hbytes] at hwritten
  cases hwritten
  cases bytes with
  | nil =>
      have hempty := hread []
      rw [List.nil_append, hnil] at hempty
      cases hempty
  | cons first others =>
      apply disassemble_cons (hread rest)
      exact List.Sublist.length_le (List.sublist_append_right others rest)

theorem disassemble_assemble_append {code : List instr} {bytes : List Byte}
    (hencodable : forall i, i ∈ code -> isa.Encodable i)
    (hbytes : isa.assemble code = .ok bytes) (rest : List Byte) :
    isa.disassemble (bytes ++ rest) =
      (isa.disassemble rest).map (code.map isa.meaning ++ ·) := by
  induction code generalizing bytes with
  | nil =>
      cases hbytes
      exact Option.map_id'.symm
  | cons i code ih =>
      rcases assemble_cons_eq_ok hbytes with ⟨first, others, hfirst, hothers, rfl⟩
      have hcode : forall other, other ∈ code -> isa.Encodable other := by
        intro other hmem
        exact hencodable other (List.mem_cons_of_mem i hmem)
      rw [List.append_assoc,
        disassemble_encode_append hnil (hencodable i List.mem_cons_self) hfirst,
        ih hcode hothers, Option.map_map]
      rfl

theorem disassemble_assemble {code : List instr} {bytes : List Byte}
    (hencodable : forall i, i ∈ code -> isa.Encodable i)
    (hbytes : isa.assemble code = .ok bytes) :
    isa.disassemble bytes = some (code.map isa.meaning) := by
  have hread := disassemble_assemble_append hnil hencodable hbytes []
  rw [List.append_nil, disassemble_nil, Option.map_some, List.append_nil] at hread
  exact hread

/-- Each step has bytes that are read as that step, and the bytes of all steps follow one
another. -/
theorem exists_pieces {steps : List (List instr)}
    (hencodable : forall step, step ∈ steps -> forall i, i ∈ step -> isa.Encodable i) :
    exists pieces : List (List Byte),
      List.Forall₂
        (fun step piece => isa.assemble step = .ok piece ∧
          isa.disassemble piece = some (step.map isa.meaning))
        steps pieces ∧
      isa.assemble steps.flatten = .ok pieces.flatten := by
  induction steps with
  | nil => exact ⟨[], .nil, rfl⟩
  | cons step rest ih =>
      have hstep := hencodable step List.mem_cons_self
      rcases exists_assemble hstep with ⟨piece, hpiece⟩
      rcases ih (fun other hmem => hencodable other (List.mem_cons_of_mem step hmem)) with
        ⟨pieces, hpieces, hrest⟩
      exists piece :: pieces
      constructor
      · exact .cons ⟨hpiece, disassemble_assemble hnil hstep hpiece⟩ hpieces
      · exact assemble_append_of_eq_ok hpiece hrest

end ReadBack
end InstructionSet
end NativeCall
