import HhctrlMgmt.Common.Json

namespace HhctrlMgmt.Mqtt

inductive ErrorCode where
  | timeout
  | noService
  | connectionRefused
  | unknownPacket
  | qosNotSupported
  | disconnected
  | reconnected
  | invalidConfig
  | publishFailure
  | subscriptionFailure
deriving DecidableEq, Repr

-- Timeout = 1, the others follow.
def ErrorCode.toInt : ErrorCode → Int
  | timeout => 1
  | noService => 2
  | connectionRefused => 3
  | unknownPacket => 4
  | qosNotSupported => 5
  | disconnected => 6
  | reconnected => 7
  | invalidConfig => 8
  | publishFailure => 9
  | subscriptionFailure => 10

-- A boost::system::error_code: a code of a Boost category, or a std::error_code
-- that make_error_code built in the category of this program.
inductive SystemCode where
  | boost (value : Int) (category : String)
  | mqtt (code : ErrorCode)
deriving DecidableEq, Repr

-- What the program takes from libraries outside the repository.
structure Platform where
  -- The remainder of the address of the mqtt category that enters the value of
  -- a std::error_code wrapped in a boost::system::error_code.
  categoryHash : Nat
  -- boost::system::error_code::what
  what : SystemCode → String
  -- boost::json::serialize
  serialize : Common.Object → Bytes

-- boost::system::error_code::value
def SystemCode.value (P : Platform) : SystemCode → Int
  | boost value _ => value
  | mqtt code => code.toInt + 1000 * P.categoryHash

-- async_mqtt::system_error that holds an error, with the text it was given.
structure SystemError where
  code : SystemCode
  text : Option String
deriving DecidableEq, Repr

def SystemError.what (P : Platform) (e : SystemError) : String :=
  match e.text with
  | some text => text ++ ": " ++ P.what e.code
  | none => P.what e.code

-- mqtt::Error; `none` is the default Error{}, which converts to false.
abbrev Error := Option SystemError

abbrev Expected (α : Type) := Except SystemError α

-- Error{code, text} and Error{code}
def error (code : ErrorCode) (text : String) : SystemError :=
  ⟨.mqtt code, some text⟩

def plainError (code : ErrorCode) : SystemError :=
  ⟨.mqtt code, none⟩

-- boost::system::errc on Linux
def timed_out : Int := 110
def network_unreachable : Int := 101
def no_such_file_or_directory : Int := 2
def connection_refused : Int := 111

def mapErrorCode (P : Platform) (code : SystemCode) : Except Exn ErrorCode :=
  if code.value P = timed_out then .ok .timeout
  else if code.value P = network_unreachable ∨ code.value P = no_such_file_or_directory then .ok .noService
  else if code.value P = connection_refused then .ok .connectionRefused
  else .error (.runtimeError
    s!"Error does not have appropriate mapping: {P.what code}, errc: {code.value P}")

-- A platform for concrete runs.
def samplePlatform : Platform := ⟨0, fun _ => "error", fun _ => []⟩

end HhctrlMgmt.Mqtt
