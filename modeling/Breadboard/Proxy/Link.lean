import Breadboard.Terminal.Host

/-! The link to a real device: what was done with it, and what goes wrong. -/

namespace Breadboard

inductive LinkCall where
  | connect (port : Text) (baudRate : Int)
  | resetInput
  | resetOutput
  | send (data : Bytes)
  | close

structure Link where
  connectFault : Option HostFault := none
  resetInputFault : Option Text := none
  resetOutputFault : Option Text := none
  /-- What goes wrong with the next write. -/
  writeFault : Option HostFault := none
  isOpen : Bool := false
  calls : List LinkCall := []

namespace Link

def record (call : LinkCall) (l : Link) : Link := { l with calls := l.calls ++ [call] }

def connect (port : Text) (baudRate : Int) (l : Link) : Except HostFault Unit × Link :=
  let l := l.record (.connect port baudRate)
  match l.connectFault with
  | some fault => (.error fault, l)
  | none => (.ok (), { l with isOpen := true })

def reset (l : Link) : Except Text Unit × Link :=
  let l := l.record .resetInput
  match l.resetInputFault with
  | some cause => (.error cause, l)
  | none =>
      let l := l.record .resetOutput
      match l.resetOutputFault with
      | some cause => (.error cause, l)
      | none => (.ok (), l)

def send (data : Bytes) (l : Link) : Link :=
  match l.writeFault with
  | some _ => { l with writeFault := none }
  | none => l.record (.send data)

def close (l : Link) : Link := if l.isOpen then { l.record .close with isOpen := false } else l

end Link

end Breadboard
