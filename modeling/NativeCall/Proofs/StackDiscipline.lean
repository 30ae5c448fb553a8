import NativeCall.Proofs.CompiledCourse

/-!
# Stack discipline

A trampoline calls from an aligned stack, stores nothing outside of the frame that it has
reserved, and hands the stack back as it found it.
-/

namespace NativeCall
namespace Machine

/-!
# Single instructions
-/

section Events

variable (m : Machine) (entry : m.core) (layout : Layout)

variable {m entry layout}

theorem sp_eq_base (entry : m.core) (layout : Layout) :
    m.sp entry = m.base entry layout + BitVec.ofNat m.width layout.size := by
  rw [base, BitVec.sub_add_cancel]

end Events

/-!
# Courses
-/

section Courses

variable (m : Machine) (entry : m.core) (layout : Layout)

variable {m entry layout}

end Courses
end Machine

/-!
# Alignment
-/

end NativeCall
