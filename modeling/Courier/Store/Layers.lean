import Courier.Store.Masked
import Courier.Store.Sealed

/-!
Layers in front of a store. The first layer of a list sees results first.
-/

namespace Courier

inductive StoreLayer
  | masked (patterns : List Pattern)
  | sealed (keys : Sealing.Keys)

namespace StoreLayer

def apply {σ : Type} (nonce : σ → List UInt8 × σ) (l : StoreLayer) (next : ResultStore σ) :
    ResultStore σ :=
  match l with
  | .masked ps => Masking.layer (Masking.matchesAny ps) next
  | .sealed keys => Sealing.layer Cipher.aesGcm nonce keys next

def applyAll {σ : Type} (nonce : σ → List UInt8 × σ) (ls : List StoreLayer) (store : ResultStore σ) :
    ResultStore σ :=
  ls.foldr (apply nonce) store

end StoreLayer
end Courier
