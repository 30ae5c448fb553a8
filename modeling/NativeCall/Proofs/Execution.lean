import NativeCall.Fault
import NativeCall.Proofs.Memory

/-!
# Execution

A machine is a partial step function. Code is an image: bytes at an address, in pages that
are executable and not writable, so that no store changes them. A machine whose program
counter is at an assembled instruction reads that instruction and goes on to the next one.
-/

namespace NativeCall

/-- Code at an address of a machine with `w`-bit addresses. -/
structure Image (w : Nat) where
  base : BitVec w
  code : List Byte
  fits : code.length < 2 ^ w

/-- The steps from a state lead to a state with a property. -/
inductive Reaches {state : Type} (step : state -> Option state) (goal : state -> Prop) :
    state -> Prop where
  | here {s : state} : goal s -> Reaches step goal s
  | later {s next : state} : step s = some next -> Reaches step goal next -> Reaches step goal s

namespace Reaches

variable {state : Type} {step : state -> Option state} {middle goal : state -> Prop}

theorem trans {s : state} (h : Reaches step middle s)
    (hgoal : forall t, middle t -> Reaches step goal t) : Reaches step goal s := by
  induction h with
  | here hmiddle => exact hgoal _ hmiddle
  | later hstep _ ih => exact later hstep ih

theorem mono {s : state} (h : Reaches step middle s) (hgoal : forall t, middle t -> goal t) :
    Reaches step goal s :=
  h.trans fun t ht => here (hgoal t ht)

end Reaches

namespace Image

variable {w : Nat}

def address (image : Image w) (offset : Nat) : BitVec w :=
  image.base + BitVec.ofNat w offset

def codeFrom (image : Image w) (pc : BitVec w) : List Byte :=
  image.code.drop (pc - image.base).toNat

def addressOfRest (image : Image w) (rest : List Byte) : BitVec w :=
  image.address (image.code.length - rest.length)

theorem codeFrom_addressOfRest (image : Image w) {done rest : List Byte}
    (hcode : image.code = done ++ rest) :
    image.codeFrom (image.addressOfRest rest) = rest := by
  have hlength : image.code.length - rest.length = done.length := by
    rw [hcode, List.length_append]
    omega
  have hlt : done.length < 2 ^ w := by
    have hfits := image.fits
    rw [hcode, List.length_append] at hfits
    omega
  unfold codeFrom addressOfRest address
  rw [hlength, Memory.toNat_offset_sub image.base hlt, hcode, List.drop_left]

end Image

/-!
# Assembled code
-/

/-- How instructions are written as bytes, and what a processor reads from them. -/
structure InstructionSet (instr operation : Type) where
  encode : instr -> Except Fault (List Byte)
  decode : List Byte -> Option (operation × List Byte)
  Encodable : instr -> Prop
  meaning : instr -> operation
  readsBack : forall i, Encodable i -> exists bytes, encode i = .ok bytes ∧
    forall rest, decode (bytes ++ rest) = some (meaning i, rest)

namespace InstructionSet

variable {instr operation : Type} {isa : InstructionSet instr operation}

def assemble (isa : InstructionSet instr operation) : List instr -> Except Fault (List Byte)
  | [] => .ok []
  | first :: rest => do
      let bytes <- isa.encode first
      let others <- isa.assemble rest
      return bytes ++ others

theorem exists_assemble {code : List instr} (h : forall i, i ∈ code -> isa.Encodable i) :
    exists bytes, isa.assemble code = .ok bytes := by
  induction code with
  | nil => exact ⟨[], rfl⟩
  | cons first rest ih =>
      rcases isa.readsBack first (h first List.mem_cons_self) with ⟨bytes, hbytes, _⟩
      rcases ih (fun other hmem => h other (List.mem_cons_of_mem first hmem)) with
        ⟨others, hothers⟩
      exists bytes ++ others
      rw [assemble, hbytes, hothers]
      rfl

/-- The code of an image goes on with these instructions at an address, to its end. -/
structure Ahead {w : Nat} (isa : InstructionSet instr operation) (image : Image w)
    (code : List instr) (pc : BitVec w) : Prop where
  encodable : forall i, i ∈ code -> isa.Encodable i
  found : exists done bytes, image.code = done ++ bytes ∧ isa.assemble code = .ok bytes ∧
    pc = image.addressOfRest bytes

namespace Ahead

variable {w : Nat} {image : Image w} {code : List instr}

theorem start (hencodable : forall i, i ∈ code -> isa.Encodable i)
    (hcode : isa.assemble code = .ok image.code) : Ahead isa image code image.base where
  encodable := hencodable
  found := by
    refine ⟨[], image.code, rfl, hcode, ?_⟩
    rw [Image.addressOfRest, Nat.sub_self, Image.address, BitVec.add_zero]

theorem decode {first : instr} {pc : BitVec w} (h : Ahead isa image (first :: code) pc) :
    exists rest, isa.decode (image.codeFrom pc) = some (isa.meaning first, rest) ∧
      Ahead isa image code (image.addressOfRest rest) := by
  rcases h.found with ⟨done, bytes, himage, hbytes, hpc⟩
  rcases isa.readsBack first (h.encodable first List.mem_cons_self) with
    ⟨firstBytes, hfirst, hread⟩
  have hcode : forall other, other ∈ code -> isa.Encodable other := by
    intro other hmem
    exact h.encodable other (List.mem_cons_of_mem first hmem)
  rcases exists_assemble hcode with ⟨rest, hrest⟩
  have hjoin : firstBytes ++ rest = bytes := by
    rw [assemble, hfirst, hrest] at hbytes
    exact Except.ok.inj hbytes
  refine ⟨rest, ?_, hcode, done ++ firstBytes, rest, ?_, hrest, rfl⟩
  · rw [hpc, image.codeFrom_addressOfRest himage, ← hjoin]
    exact hread rest
  · rw [himage, ← hjoin, List.append_assoc]

end Ahead
end InstructionSet
end NativeCall
