/-
The built-in exception types of the language. A failure from here is usually a bug in request
handling. The codes run downward from -31000 in the order of the list.
-/
import FaultCodes.CodeTable

namespace FaultCodes.Catalogue

def builtinNames : List String :=
  ["UNKNOWN", "ArithmeticError", "AssertionError", "AttributeError", "BlockingIOError",
   "BrokenPipeError", "BufferError", "BytesWarning", "ChildProcessError", "ConnectionAbortedError",
   "ConnectionError", "ConnectionRefusedError", "ConnectionResetError", "DeprecationWarning",
   "EOFError", "FileExistsError", "FileNotFoundError", "FloatingPointError", "FutureWarning",
   "ImportError", "ImportWarning", "IndentationError", "IndexError", "InterruptedError",
   "IsADirectoryError", "KeyError", "LookupError", "MemoryError", "ModuleNotFoundError",
   "NameError", "NotADirectoryError", "NotImplementedError", "OSError", "OverflowError",
   "PendingDeprecationWarning", "PermissionError", "ProcessLookupError", "RecursionError",
   "ReferenceError", "ResourceWarning", "RuntimeError", "RuntimeWarning", "StopAsyncIteration",
   "StopIteration", "SyntaxError", "SyntaxWarning", "SystemError", "TabError", "TimeoutError",
   "TypeError", "UnboundLocalError", "UnicodeDecodeError", "UnicodeEncodeError", "UnicodeError",
   "UnicodeTranslateError", "UnicodeWarning", "UserWarning", "ValueError", "Warning",
   "ZeroDivisionError"]

end FaultCodes.Catalogue
