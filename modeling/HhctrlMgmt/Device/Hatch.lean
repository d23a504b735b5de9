namespace HhctrlMgmt.Device

abbrev DeviceId := Int

inductive HatchState where
  | undefined
  | open
  | closed
  | changingPosition
  | faulty
deriving DecidableEq, Repr

-- std::hash of an enumeration is that of its underlying value.
def HatchState.hash : HatchState → Nat
  | .undefined => 0
  | .open => 1
  | .closed => 2
  | .changingPosition => 3
  | .faulty => 4

theorem HatchState.hash_injective (first second : HatchState) (hhash : first.hash = second.hash) :
    first = second := by
  cases first <;> cases second <;> simp_all [HatchState.hash]

end HhctrlMgmt.Device
