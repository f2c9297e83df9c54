/-!
# Settings

The choices that steer a run: where random values start, which modules may be constructed, which
properties are left out and how deep values may nest. A catalogue may bring settings along; a caller
may replace them one by one.
-/

namespace Fixture

structure Settings where
  /-- Where the random values start; without a seed every run differs. -/
  seed : Option Nat := none
  /-- The module whose composites may be constructed; without one it is the module of the root. -/
  scope : Option String := none
  /-- Properties that are never generated. -/
  ignored : List String := ["class", "bytes", "declaringClass"]
  /-- How many composites may be open at once. -/
  maxDepth : Nat := 64
  deriving Inhabited, BEq

namespace Settings

def ignores (self : Settings) (property : String) : Bool := self.ignored.contains property

end Settings

end Fixture
