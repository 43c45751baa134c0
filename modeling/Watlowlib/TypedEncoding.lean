import Watlowlib.EncoderContracts

/-! # Which exceptions leave an encoder

The errors of an encoder before I/O are typed only where the value, the selector and the registers
fit: the primitives that pack them raise bare exceptions, and nothing wraps those. -/
namespace TypedEncoding

open EncoderContracts EncodingChecks ModbusCodec ParameterCommands PythonValues Registry
  StdBusPayload WatlowErrors

variable {lib : AnyModbus} {ctx : CommandContext} {read : ReadParameterRequest}
  {write : WriteParameterRequest}

end TypedEncoding
