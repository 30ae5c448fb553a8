/-!
# Error numbers

A thread has the error number that the operating system last set, which any call may
change, and a captured copy of it, which changes only on request.
-/

namespace NativeCall

structure ErrorState where
  system : Int
  captured : Int
  deriving DecidableEq, Repr

namespace ErrorState

def initial : ErrorState :=
  { system := 0, captured := 0 }

def setSystem (state : ErrorState) (code : Int) : ErrorState :=
  { state with system := code }

def setCaptured (state : ErrorState) (code : Int) : ErrorState :=
  { state with captured := code }

/-- Copy the system's error number. -/
def capture (state : ErrorState) : ErrorState :=
  { state with captured := state.system }

end ErrorState
end NativeCall
