/-!
# Denied names

Names that no expression may mention under any policy, by the capability they stand for. Names
are compared exactly, case included.
-/

namespace GatedPredicate

/-- The names that every policy denies. -/
def standardDenied : List String :=
  -- the process and its surroundings
  ["Environment", "Console", "AppDomain", "GC"] ++
  -- files
  ["File", "FileInfo", "Directory", "DirectoryInfo", "Path", "DriveInfo"] ++
  -- processes and diagnostics
  ["Process", "ProcessStartInfo", "EventLog", "EventLogEntry", "PerformanceCounter"] ++
  -- system settings
  ["Registry", "RegistryKey"] ++
  -- network
  ["WebClient", "HttpClient", "WebRequest", "HttpRequest", "Dns", "Socket", "NetworkStream",
    "TcpClient", "TcpListener", "UdpClient", "NamedPipeClientStream", "NamedPipeServerStream"] ++
  -- cryptography
  ["CryptoStream", "SymmetricAlgorithm", "AsymmetricAlgorithm", "RSA", "DSA", "SHA256", "SHA512",
    "SHA1", "MD5", "ProtectedData", "Aes"] ++
  -- introspection and generated code
  ["Activator", "Assembly", "AssemblyBuilder", "AssemblyName", "FieldInfo", "MethodInfo",
    "PropertyInfo", "ConstructorInfo", "TypeInfo", "Type", "MethodBase", "DynamicMethod",
    "ILGenerator", "ParameterInfo"] ++
  -- threads
  ["Thread", "ThreadPool", "Task", "Timer", "CancellationToken", "Semaphore", "Mutex",
    "AutoResetEvent", "ManualResetEvent"] ++
  -- memory and foreign code
  ["GCHandle", "Marshal", "SafeHandle", "UnmanagedFunctionPointer", "DllImport", "StructLayout",
    "SecurityCriticalAttribute", "SecuritySafeCriticalAttribute", "Pointer", "Span", "Memory",
    "MemoryManager", "FixedBuffer", "DllImportAttribute", "UnmanagedType", "CallingConvention",
    "ComImportAttribute", "ExternAttribute"] ++
  -- serialization
  ["BinaryFormatter", "SoapFormatter", "Formatter", "DataContractSerializer", "XmlSerializer"] ++
  -- debugging
  ["StackTrace", "StackFrame", "Debug", "Trace", "Debugger", "DebuggerStepThroughAttribute",
    "ConditionalAttribute"]

/-- Names of operations that inspect types. -/
def reflectionNames : List String :=
  ["GetType", "GetTypeInfo", "GetTypeCode", "nameof", "InvokeMember"]

/-- Whether a name stands for inspection of types. -/
def isReflectionName (name : String) : Bool :=
  reflectionNames.contains name

end GatedPredicate
