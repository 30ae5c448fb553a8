import NativeCall.Proofs.Allocation
import NativeCall.Proofs.Compilation
import NativeCall.Proofs.Linker
import NativeCall.Proofs.X86.Disassembly
import NativeCall.Proofs.A64.Disassembly

/-!
# Reserved code suffices

A linker reserves the bytes of each stub and the bytes that the stub may skip. No stub skips more,
so all of them are written, and none of them is empty, so each has an entry. What is left to
fail is the system, which may not reserve the pages or not make them executable.
-/

namespace NativeCall

/-!
# Code is not empty
-/

namespace InstructionSet

variable {instr operation : Type} {isa : InstructionSet instr operation}

theorem ne_nil_of_assemble {i : instr} {code : List instr} {bytes ending : List Byte}
    (hmem : i ∈ code) (hencode : isa.encode i = .ok ending) (hending : ending ≠ [])
    (hbytes : isa.assemble code = .ok bytes) : bytes ≠ [] := by
  induction code generalizing bytes with
  | nil => cases hmem
  | cons head rest ih =>
      rcases assemble_cons_eq_ok hbytes with ⟨first, others, hfirst, hothers, rfl⟩
      rcases List.mem_cons.mp hmem with rfl | hmem
      · rw [hencode] at hfirst
        cases hfirst
        exact List.append_ne_nil_of_left_ne_nil hending others
      · exact List.append_ne_nil_of_right_ne_nil first (ih hmem hothers)

end InstructionSet

/-- A trampoline ends in a return or a jump, so it is not empty. -/
theorem Trampoline.bytes_ne_nil {arch : Arch} {sig : Signature} {target : Address}
    {helper : Option Address} {code : List Byte}
    (hbytes : Trampoline.bytes arch sig target helper = .ok code) : code ≠ [] := by
  cases arch with
  | i386 =>
      rcases bind_eq_ok hbytes with ⟨instrs, hinstrs, hassemble⟩
      rcases bind_eq_ok hinstrs with ⟨moves, _, hinstrs⟩
      cases hinstrs
      rw [← X86.assemble_isa] at hassemble
      apply InstructionSet.ne_nil_of_assemble (i := .ret) _ rfl (by decide) hassemble
      simp
  | amd64 =>
      have hassemble : X86.assemble .bits64 (Amd64.code sig target helper sig.frame) = .ok code :=
        hbytes
      rw [← X86.assemble_isa] at hassemble
      cases hframe : sig.frame with
      | direct =>
          rw [hframe] at hassemble
          apply InstructionSet.ne_nil_of_assemble (i := .jmp .r11) _ rfl (by decide) hassemble
          simp [Amd64.code, X86.Instr.jmpAbs]
      | wrapped =>
          rw [hframe] at hassemble
          apply InstructionSet.ne_nil_of_assemble (i := .ret) _ rfl (by decide) hassemble
          simp [Amd64.code]
  | aarch64 =>
      have hassemble : A64.assemble (Aarch64.code sig target helper sig.frame) = .ok code :=
        hbytes
      rw [← A64.assemble_isa] at hassemble
      cases hframe : sig.frame with
      | direct =>
          rw [hframe] at hassemble
          apply InstructionSet.ne_nil_of_assemble (i := .br .x9) _ rfl (by decide) hassemble
          simp [Aarch64.code, Aarch64.jumpAbs]
      | wrapped =>
          rw [hframe] at hassemble
          apply InstructionSet.ne_nil_of_assemble (i := .ret) _ rfl (by decide) hassemble
          simp [Aarch64.code]

def PendingStub.IsCompiled (stub : PendingStub) : Prop :=
  exists arch sig target helper,
    Trampoline.compile arch sig target helper = .ok stub.trampoline

theorem PendingStub.IsCompiled.code_ne_nil {stub : PendingStub} (h : stub.IsCompiled) :
    stub.trampoline.code ≠ [] := by
  rcases h with ⟨arch, sig, target, helper, hcompile⟩
  exact Trampoline.bytes_ne_nil (of_compile_eq_ok hcompile).right.left

namespace Arena

/-!
# Space for several pieces
-/

/-- Bytes that suffice for several pieces of code, wherever the first one starts. -/
def space (codes : List (List Byte)) : Nat :=
  (codes.map fun code => code.length + codeAlign).sum

theorem space_cons (code : List Byte) (rest : List (List Byte)) :
    space (code :: rest) = code.length + codeAlign + space rest := by
  rw [space, List.map_cons, List.sum_cons, space]

/-- No piece skips as many bytes as are reserved for skipping. -/
theorem exists_writeAll {arena : Arena} (codes : List (List Byte))
    (hstate : arena.state = .writable) (hwhole : codeAlign ∣ arena.capacity)
    (hfits : arena.used + space codes ≤ arena.capacity) :
    exists final offsets, arena.writeAll codes = .ok (final, offsets) ∧
      final.state = .writable ∧ final.used ≤ arena.used + space codes := by
  induction codes generalizing arena with
  | nil => exact ⟨arena, [], rfl, hstate, Nat.le_add_right _ _⟩
  | cons code rest ih =>
      rw [space_cons] at hfits
      have hskip := alignUp_lt codeAlign_pos arena.used
      rcases write_cases hstate hwhole code with ⟨_, next, hwrite⟩ | ⟨hfull, _⟩
      · rcases write_eq_ok hwrite with ⟨hextends, _, hused, _⟩
        have hcapacity := hextends.capacity
        rcases ih (state_of_write hwrite).right (hcapacity ▸ hwhole) (by omega) with
          ⟨final, offsets, hrest, hfinal, hbound⟩
        refine ⟨final, alignUp codeAlign arena.used :: offsets, ?_, hfinal, ?_⟩
        · simp only [writeAll, hwrite, hrest, bind, Except.bind, pure, Except.pure]
        · rw [space_cons]
          omega
      · unfold room at hfull
        omega

theorem offsetsFrom_strictly_ascend (used : Nat) {codes : List (List Byte)}
    (h : forall code, code ∈ codes -> code ≠ []) :
    (offsetsFrom used codes).Pairwise fun offset later => offset < later := by
  induction codes generalizing used with
  | nil => exact .nil
  | cons code rest ih =>
      refine List.pairwise_cons.mpr ⟨?_, ih _ fun other hmem => h other (.tail _ hmem)⟩
      intro later hlater
      have hpositive := List.length_pos_of_ne_nil (h code List.mem_cons_self)
      have hbehind := le_of_mem_offsetsFrom hlater
      omega

theorem exists_entry {arena : Arena} {offset : Nat} {code : List Byte}
    (hexecutable : arena.isExecutable = true) (hholds : arena.Holds offset code)
    (hcode : code ≠ []) : exists address, arena.entry offset = .ok address := by
  have hstate : arena.state = .executable := eq_of_beq hexecutable
  have hinside := hholds.inside
  have hpositive := List.length_pos_of_ne_nil hcode
  unfold entry
  simp only [hstate]
  rw [if_neg (by omega)]
  exact ⟨_, rfl⟩

end Arena

namespace Linker

variable {linker : Linker}

/-!
# Methods of all stubs
-/

theorem codeSize_eq_space (linker : Linker) : linker.codeSize = Arena.space linker.codes := by
  unfold codeSize codes
  generalize linker.stubs = stubs
  induction stubs with
  | nil => rfl
  | cons stub rest ih =>
      rw [List.foldr_cons, ih, List.map_cons, Arena.space_cons, Trampoline.size]

theorem codeSize_pos (h : linker.isEmpty = false) : 0 < linker.codeSize := by
  rw [codeSize_eq_space, codes]
  cases hstubs : linker.stubs with
  | nil =>
      rw [isEmpty, hstubs] at h
      cases h
  | cons stub rest =>
      have hpos := Arena.codeAlign_pos
      rw [List.map_cons, Arena.space_cons]
      omega

theorem codes_ne_nil (h : forall stub, stub ∈ linker.stubs -> stub.IsCompiled) :
    forall code, code ∈ linker.codes -> code ≠ [] := by
  intro code hmem
  rcases List.mem_map.mp hmem with ⟨stub, hstub, rfl⟩
  exact (h stub hstub).code_ne_nil

theorem methods_eq {arena : Arena} (hexecutable : arena.isExecutable = true)
    (hholds : List.Forall₂ arena.Holds linker.offsets linker.codes)
    (hcodes : forall code, code ∈ linker.codes -> code ≠ []) :
    linker.methods arena linker.offsets = .ok (linker.methodsAt arena.base) := by
  have hexists : exists methods, linker.methods arena linker.offsets = .ok methods := by
    unfold Linker.methods
    unfold codes at hholds hcodes
    generalize linker.offsets = offsets at hholds ⊢
    generalize linker.stubs = stubs at hholds hcodes ⊢
    induction stubs generalizing offsets with
    | nil => exact ⟨[], by rw [List.zip_nil_left]; rfl⟩
    | cons stub rest ih =>
        rcases hholds with _ | ⟨hfirst, hothers⟩
        rename_i offset later
        rcases Arena.exists_entry hexecutable hfirst (hcodes _ List.mem_cons_self) with
          ⟨address, haddress⟩
        rcases ih _ hothers (fun code hmem => hcodes code (.tail _ hmem)) with ⟨methods, hmethods⟩
        rw [List.zip_cons_cons, List.mapM_cons, hmethods]
        simp only [haddress]
        exact ⟨_, rfl⟩
  rcases hexists with ⟨methods, hmethods⟩
  rw [hmethods, methods_eq_ok hmethods]

theorem forall₂_named_methodsAt (linker : Linker) (base : Address) :
    List.Forall₂
      (fun stub method => method.name = stub.name ∧ method.signature = stub.signature)
      linker.stubs (linker.methodsAt base) := by
  have hlength := linker.length_offsets
  unfold methodsAt
  generalize linker.offsets = offsets at hlength ⊢
  generalize linker.stubs = stubs at hlength ⊢
  induction stubs generalizing offsets with
  | nil => exact .nil
  | cons stub rest ih =>
      cases offsets with
      | nil => cases hlength
      | cons offset later => exact .cons ⟨rfl, rfl⟩ (ih _ (Nat.succ.inj hlength))

theorem map_address_methodsAt (linker : Linker) (base : Address) :
    (linker.methodsAt base).map (·.address) =
      linker.offsets.map fun offset => base + BitVec.ofNat 64 offset := by
  have hlength := linker.length_offsets
  unfold methodsAt
  rw [List.map_zipWith]
  generalize linker.offsets = offsets at hlength ⊢
  generalize linker.stubs = stubs at hlength ⊢
  induction stubs generalizing offsets with
  | nil => rw [List.eq_nil_of_length_eq_zero hlength, List.zipWith_nil_right, List.map_nil]
  | cons stub rest ih =>
      cases offsets with
      | nil => cases hlength
      | cons offset later =>
          rw [List.zipWith_cons_cons, List.map_cons, ih _ (Nat.succ.inj hlength)]

theorem addresses_strictly_ascend {arena : Arena}
    (hholds : List.Forall₂ arena.Holds linker.offsets linker.codes)
    (hcodes : forall code, code ∈ linker.codes -> code ≠ []) :
    (linker.methodsAt arena.base).Pairwise
      fun method later => method.address.toNat < later.address.toNat := by
  have hinside : forall offset, offset ∈ linker.offsets -> offset ≤ arena.used := by
    intro offset hmem
    rcases List.mem_iff_getElem.mp hmem with ⟨i, hi, rfl⟩
    have hi' : i < linker.codes.length := hholds.length_eq ▸ hi
    exact (hholds.get hi hi').offset_le_used
  rw [← List.pairwise_map (f := NativeMethod.address)
    (R := fun address later => address.toNat < later.toNat), map_address_methodsAt,
    List.pairwise_map]
  refine (Arena.offsetsFrom_strictly_ascend 0 hcodes).imp_of_mem ?_
  intro offset later hoffset hlater hlt
  rw [Arena.toNat_base_add (hinside offset hoffset), Arena.toNat_base_add (hinside later hlater)]
  exact Nat.add_lt_add_left hlt _

/-- Room for all stubs is filled with them, unless the system refuses. -/
theorem fill_cases (pages : Pages) {arena : Arena} (hstate : arena.state = .writable)
    (hblank : arena.image = []) (hwhole : Arena.codeAlign ∣ arena.capacity)
    (hfits : linker.codeSize ≤ arena.capacity) :
    (exists code, pages.refusal = some code ∧
        linker.fill pages arena = .error (.protect (some code))) ∨
      (pages.refusal = none ∧ exists full, linker.fill pages arena = .ok (full, linker.offsets) ∧
        full.used ≤ linker.codeSize) := by
  have hused : arena.used = 0 := by
    rw [Arena.used, hblank, List.length_nil]
  have hspace := linker.codeSize_eq_space
  rcases Arena.exists_writeAll linker.codes hstate hwhole (by omega) with
    ⟨written, offsets, hwritten, hwritable, hbound⟩
  have hoffsets := (Arena.writeAll_eq_ok hwritten).right.left
  rw [hused] at hoffsets
  cases hrefusal : pages.refusal with
  | some code =>
      refine .inl ⟨code, rfl, ?_⟩
      rw [codes] at hwritten
      simp only [fill, hwritten, Arena.finalize, hwritable, hrefusal, bind, Except.bind]
  | none =>
      refine .inr ⟨rfl, { written with state := .executable }, ?_, ?_⟩
      · rw [codes] at hwritten
        simp only [fill, hwritten, Arena.finalize, hwritable, hrefusal, hoffsets, bind,
          Except.bind, pure, Except.pure]
        rfl
      · change written.used ≤ linker.codeSize
        omega

/-- The methods of all stubs in one arena: in the order of the stubs, each behind the one
before. -/
structure PlacesStubs (linker : Linker) (arena : Arena) (methods : List NativeMethod) : Prop where
  named : List.Forall₂
    (fun stub method => method.name = stub.name ∧ method.signature = stub.signature)
    linker.stubs methods
  stands : List.Forall₂ (Stands arena) linker.stubs methods
  ascending : methods.Pairwise fun method later => method.address.toNat < later.address.toNat
  used_le : arena.used ≤ linker.codeSize

end Linker

namespace Process

variable {process : Process} {owner : ClassId} {linker : Linker}

/-!
# Attaching compiled stubs
-/

/-- What attaching compiled stubs comes to: the pages are not there, they cannot be made
executable, or all stubs are in place. -/
inductive AttachesCompiled (process : Process) (owner : ClassId) (linker : Linker)
    (step : Step Process (Outcome LinkError (List NativeMethod))) : Prop where
  | unreserved
      (hreserve :
        process.pages.reserve (alignUp process.pages.pageSize.bytes linker.codeSize) = none)
      (hvalue : step.value = .error (.error (.arena (.outOfMemory
        (alignUp process.pages.pageSize.bytes linker.codeSize) (some Arena.outOfMemoryCode)))))
      (hstate : step.state = process)
  | unprotected {code : Int} (hrefusal : process.pages.refusal = some code)
      (hvalue : step.value = .error (.error (.arena (.protect (some code)))))
  | placed {arena : Arena} {methods : List NativeMethod}
      (hrefusal : process.pages.refusal = none) (hvalue : step.value = .ok methods)
      (hattached : process.HasAttached owner linker arena methods step.state)
      (hplaced : linker.PlacesStubs arena methods)

/-- The bytes that a linker reserves suffice for its stubs. Only the system can make an attachment
of compiled stubs fail: where it neither lacks the pages nor refuses to make them executable, there
is one method for each stub. -/
theorem attach_compiled (hstubs : linker.isEmpty = false)
    (hcompiled : forall stub, stub ∈ linker.stubs -> stub.IsCompiled)
    (hsize : linker.codeSize + process.pages.pageSize.bytes < wordCount) :
    process.AttachesCompiled owner linker (process.attach owner linker) := by
  rcases Arena.allocate_of_lt process.pages (Linker.codeSize_pos hstubs) hsize with
    ⟨arena, pages, hallocate, hcapacity⟩ | ⟨hnone, hallocate⟩
  · have hnew := Arena.allocate_eq_ok hallocate
    have hrefusals : pages.refusal = process.pages.refusal := congrArg System.refusal hnew.system
    have hfits : linker.codeSize ≤ arena.capacity := by
      rw [hcapacity]
      exact le_alignUp process.pages.pageSize.bytes_pos _
    rcases Linker.fill_cases pages hnew.state hnew.blank hnew.codeAlign_dvd_capacity hfits with
      ⟨code, hrefusal, hfill⟩ | ⟨hrefusal, full, hfill, hused⟩
    · apply AttachesCompiled.unprotected (hrefusals ▸ hrefusal)
      simp only [attach, hstubs, Bool.false_eq_true, ↓reduceIte, hallocate, hfill]
    · have hcodes := Linker.codes_ne_nil hcompiled
      rcases Linker.fill_eq_ok hfill hnew.blank with ⟨_, hexecutable, _, hholds⟩
      have hmethods := Linker.methods_eq hexecutable hholds hcodes
      have hattach : process.attach owner linker =
          { value := .ok (linker.methodsAt full.base)
            state := (Process.register { process with pages } owner full).state
            events := [arena.allocatedEvent, full.finalizedEvent] ++ linker.dumps ++
              (Process.register { process with pages } owner full).events } := by
        simp only [attach, hstubs, Bool.false_eq_true, ↓reduceIte, hallocate, hfill, hmethods]
      rw [hattach]
      exact .placed (hrefusals ▸ hrefusal) rfl ⟨hexecutable, hholds, rfl, rfl, rfl⟩
        { named := linker.forall₂_named_methodsAt full.base
          stands := Linker.stands_methodsAt hholds
          ascending := Linker.addresses_strictly_ascend hholds hcodes
          used_le := hused }
  · apply AttachesCompiled.unreserved hnone
    · simp only [attach, hstubs, Bool.false_eq_true, ↓reduceIte, hallocate]
      rfl
    · simp only [attach, hstubs, Bool.false_eq_true, ↓reduceIte, hallocate]
      rfl

end Process

def sampleJump (target : Address) : Trampoline :=
  { arch := .amd64, frame := .direct, target
    code := [0x49, 0xBB] ++ littleEndian 8 target ++ [0x41, 0xFF, 0xE3] }

def sampleLinker : Linker :=
  let first : PendingStub :=
    { name := "first", signature := "()", trampoline := sampleJump 0x1000 }
  let second : PendingStub :=
    { name := "second", signature := "()", trampoline := sampleJump 0x2000 }
  ((Linker.create false).add first).add second

/-- The second stub skips three bytes. -/
theorem Process.attach_compiled_sample :
    sampleLinker.isEmpty = false ∧
      (forall stub, stub ∈ sampleLinker.stubs -> stub.IsCompiled) ∧
      sampleLinker.codeSize + Process.initial.pages.pageSize.bytes < wordCount ∧
      exists arena methods,
        (Process.initial.attach ⟨0⟩ sampleLinker).value = .ok methods ∧
          methods.map (·.name) = ["first", "second"] ∧
          methods.map (·.address) = [0x10000, 0x10010] ∧
          arena.used ≤ 42 ∧ sampleLinker.PlacesStubs arena methods := by
  have hcompiled : forall stub, stub ∈ sampleLinker.stubs -> stub.IsCompiled := by
    have hjump (target : Address) (htarget : target = 0x1000 ∨ target = 0x2000) :
        Trampoline.compile .amd64 (.ofTypes .amd64 [] (.void, .void) false) target none =
          .ok (sampleJump target) := by
      rcases htarget with rfl | rfl <;> decide +kernel
    simp only [sampleLinker, Linker.add, Linker.create, List.nil_append, List.singleton_append,
      List.forall_mem_cons]
    exact ⟨⟨_, _, _, _, hjump 0x1000 (.inl rfl)⟩, ⟨_, _, _, _, hjump 0x2000 (.inr rfl)⟩,
      List.forall_mem_nil _⟩
  have hsize : sampleLinker.codeSize + Process.initial.pages.pageSize.bytes < wordCount := by decide +kernel
  have haddresses : ((Process.initial.attach ⟨0⟩ sampleLinker).value.toOption.map fun methods =>
      (methods.map (·.name), methods.map (·.address))) =
        some (["first", "second"], [0x10000, 0x10010]) := by
    decide +kernel
  refine ⟨rfl, hcompiled, hsize, ?_⟩
  cases @Process.attach_compiled .initial ⟨0⟩ sampleLinker rfl hcompiled hsize with
  | unreserved _ hvalue _ =>
      rw [hvalue] at haddresses
      cases haddresses
  | unprotected hrefusal _ => cases hrefusal
  | placed _ hvalue _ hplaced =>
      rw [hvalue] at haddresses
      rcases Prod.mk.inj (Option.some.inj haddresses) with ⟨hnames, hplaces⟩
      exact ⟨_, _, hvalue, hnames, hplaces, hplaced.used_le, hplaced⟩

end NativeCall
