import Mathlib.Algebra.Ring.Int.Defs
import Mathlib.Data.List.Basic

/-! The values of Soroban contracts (`xdr.ScVal`), with integers as their words. -/

namespace Axionvera.Soroban

/-- `xdr.ScAddress`. -/
inductive ScAddress where
  | account (publicKey : List UInt8)
  | contract (id : List UInt8)
  | muxedAccount (id : BitVec 64) (publicKey : List UInt8)
  | claimableBalance (id : List UInt8)
  | liquidityPool (id : List UInt8)
  deriving DecidableEq, Repr

/-- The kinds of values that are only told apart by their names. -/
inductive OtherScValType where
  | error
  | timepoint
  | duration
  | contractInstance
  | ledgerKeyContractInstance
  | ledgerKeyNonce
  deriving DecidableEq, Repr

/-- The name of a kind. -/
def OtherScValType.name : OtherScValType → String
  | .error => "scvError"
  | .timepoint => "scvTimepoint"
  | .duration => "scvDuration"
  | .contractInstance => "scvContractInstance"
  | .ledgerKeyContractInstance => "scvLedgerKeyContractInstance"
  | .ledgerKeyNonce => "scvLedgerKeyNonce"

/-- `xdr.ScVal`. The vector of `scvVec` and the map of `scvMap` are optional. -/
inductive ScVal where
  | void
  | bool (b : Bool)
  | u32 (word : BitVec 32)
  | i32 (word : BitVec 32)
  | u64 (word : BitVec 64)
  | i64 (word : BitVec 64)
  | u128 (hi lo : BitVec 64)
  | i128 (hi lo : BitVec 64)
  | u256 (hiHi hiLo loHi loLo : BitVec 64)
  | i256 (hiHi hiLo loHi loLo : BitVec 64)
  | symbol (bytes : List UInt8)
  | string (bytes : List UInt8)
  | bytes (bytes : List UInt8)
  | address (address : ScAddress)
  | vec (items : List ScVal)
  | absentVec
  | map (entries : List (ScVal × ScVal))
  | absentMap
  | other (type : OtherScValType)

/-- The integer that a value of an integer kind stands for: the words are 64 bits each, and the
most significant one of a signed kind has a sign.
-/
def ScVal.integer : ScVal → Option Int
  | .u32 word => some word.toNat
  | .i32 word => some word.toInt
  | .u64 word => some word.toNat
  | .i64 word => some word.toInt
  | .u128 hi lo => some (hi.toNat * 2 ^ 64 + lo.toNat)
  | .i128 hi lo => some (hi.toInt * 2 ^ 64 + lo.toNat)
  | .u256 hiHi hiLo loHi loLo =>
      some (hiHi.toNat * 2 ^ 192 + hiLo.toNat * 2 ^ 128 + loHi.toNat * 2 ^ 64 + loLo.toNat)
  | .i256 hiHi hiLo loHi loLo =>
      some (hiHi.toInt * 2 ^ 192 + hiLo.toNat * 2 ^ 128 + loHi.toNat * 2 ^ 64 + loLo.toNat)
  | _ => none

end Axionvera.Soroban
