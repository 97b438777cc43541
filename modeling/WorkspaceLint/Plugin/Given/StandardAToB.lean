import WorkspaceLint.Plugin.Given.Basic

/-!
# Standard modules from A to B

The modules of the standard library whose names begin with a letter from A to B, with the names
that they provide. Long series of numeric constants are left out.
-/

namespace WorkspaceLint.GivenModule

/-- The standard modules from A to B. -/
def standardAToB : List GivenModule := [
  ⟨"abc", false, "ABC ABCMeta abstractclassmethod abstractproperty abstractstaticmethod",
    "abstractmethod get_cache_token update_abstractmethods", ""⟩,
  ⟨"aifc", false, "Aifc_read Aifc_write Chunk:chunk Error", "namedtuple open", ""⟩,
  ⟨"argparse", false,
    "Action ArgumentDefaultsHelpFormatter ArgumentError ArgumentParser ArgumentTypeError "
      ++ "BooleanOptionalAction FileType HelpFormatter MetavarTypeHelpFormatter Namespace "
      ++ "RawDescriptionHelpFormatter RawTextHelpFormatter", "ngettext",
    "ONE_OR_MORE OPTIONAL PARSER REMAINDER SUPPRESS ZERO_OR_MORE"⟩,
  ⟨"array", false, "ArrayType:array:array array", "", "typecodes"⟩,
  ⟨"ast", false,
    "AST Add And AnnAssign Assert Assign AsyncFor AsyncFunctionDef AsyncWith Attribute "
      ++ "AugAssign AugLoad AugStore Await BinOp BitAnd BitOr BitXor BoolOp Break Bytes Call "
      ++ "ClassDef Compare Constant Continue Del Delete Dict DictComp Div Ellipsis Eq "
      ++ "ExceptHandler Expr Expression ExtSlice FloorDiv For FormattedValue FunctionDef "
      ++ "FunctionType GeneratorExp Global Gt GtE If IfExp Import ImportFrom In Index "
      ++ "IntEnum:enum Interactive Invert Is IsNot JoinedStr LShift Lambda List ListComp Load "
      ++ "Lt LtE MatMult Match MatchAs MatchClass MatchMapping MatchOr MatchSequence "
      ++ "MatchSingleton MatchStar MatchValue Mod Module Mult Name NameConstant NamedExpr "
      ++ "NodeTransformer NodeVisitor Nonlocal Not NotEq NotIn Num Or Param Pass Pow RShift "
      ++ "Raise Return Set SetComp Slice Starred Store Str Sub Subscript Suite Try TryStar "
      ++ "Tuple TypeIgnore UAdd USub UnaryOp While With Yield YieldFrom alias arg arguments "
      ++ "auto:enum boolop cmpop comprehension excepthandler expr expr_context keyword "
      ++ "match_case mod nullcontext:contextlib operator pattern slice stmt type_ignore unaryop "
      ++ "withitem",
    "contextmanager copy_location dump fix_missing_locations get_docstring get_source_segment "
      ++ "increment_lineno iter_child_nodes iter_fields literal_eval main parse unparse walk",
    "PyCF_ALLOW_TOP_LEVEL_AWAIT PyCF_ONLY_AST PyCF_TYPE_COMMENTS"⟩,
  ⟨"asynchat", false, "async_chat deque:collections simple_producer", "find_prefix_at_end", ""⟩,
  ⟨"asyncio", true,
    "AbstractChildWatcher:asyncio.unix_events AbstractEventLoop:asyncio.events "
      ++ "AbstractEventLoopPolicy:asyncio.events AbstractServer:asyncio.events "
      ++ "Barrier:asyncio.locks BaseEventLoop:asyncio.base_events "
      ++ "BaseProtocol:asyncio.protocols BaseTransport:asyncio.transports "
      ++ "BoundedSemaphore:asyncio.locks BrokenBarrierError:asyncio.exceptions "
      ++ "BufferedProtocol:asyncio.protocols CancelledError:asyncio.exceptions "
      ++ "Condition:asyncio.locks DatagramProtocol:asyncio.protocols "
      ++ "DatagramTransport:asyncio.transports "
      ++ "DefaultEventLoopPolicy:asyncio.unix_events:_UnixDefaultEventLoopPolicy "
      ++ "Event:asyncio.locks FastChildWatcher:asyncio.unix_events Future:_asyncio "
      ++ "Handle:asyncio.events IncompleteReadError:asyncio.exceptions "
      ++ "InvalidStateError:asyncio.exceptions LifoQueue:asyncio.queues "
      ++ "LimitOverrunError:asyncio.exceptions Lock:asyncio.locks "
      ++ "MultiLoopChildWatcher:asyncio.unix_events PidfdChildWatcher:asyncio.unix_events "
      ++ "PriorityQueue:asyncio.queues Protocol:asyncio.protocols Queue:asyncio.queues "
      ++ "QueueEmpty:asyncio.queues QueueFull:asyncio.queues ReadTransport:asyncio.transports "
      ++ "Runner:asyncio.runners SafeChildWatcher:asyncio.unix_events "
      ++ "SelectorEventLoop:asyncio.unix_events:_UnixSelectorEventLoop Semaphore:asyncio.locks "
      ++ "SendfileNotAvailableError:asyncio.exceptions Server:asyncio.base_events "
      ++ "StreamReader:asyncio.streams StreamReaderProtocol:asyncio.streams "
      ++ "StreamWriter:asyncio.streams SubprocessProtocol:asyncio.protocols "
      ++ "SubprocessTransport:asyncio.transports Task:_asyncio TaskGroup:asyncio.taskgroups "
      ++ "ThreadedChildWatcher:asyncio.unix_events Timeout:asyncio.timeouts "
      ++ "TimeoutError:builtins TimerHandle:asyncio.events Transport:asyncio.transports "
      ++ "WriteTransport:asyncio.transports",
    "all_tasks as_completed create_subprocess_exec create_subprocess_shell create_task "
      ++ "current_task ensure_future gather get_child_watcher get_event_loop "
      ++ "get_event_loop_policy get_running_loop iscoroutine iscoroutinefunction isfuture "
      ++ "new_event_loop open_connection open_unix_connection run run_coroutine_threadsafe "
      ++ "set_child_watcher set_event_loop set_event_loop_policy shield sleep start_server "
      ++ "start_unix_server timeout timeout_at to_thread wait wait_for wrap_future",
    "ALL_COMPLETED FIRST_COMPLETED FIRST_EXCEPTION"⟩,
  ⟨"asyncio.base_events", false, "BaseEventLoop Server", "", "MAXIMUM_SELECT_TIMEOUT logger"⟩,
  ⟨"asyncio.base_futures", false, "", "get_ident isfuture", ""⟩,
  ⟨"asyncio.base_subprocess", false,
    "BaseSubprocessTransport ReadSubprocessPipeProto WriteSubprocessPipeProto", "", "logger"⟩,
  ⟨"asyncio.base_tasks", false, "", "", ""⟩,
  ⟨"asyncio.constants", false, "", "",
    "ACCEPT_RETRY_DELAY DEBUG_STACK_DEPTH FLOW_CONTROL_HIGH_WATER_SSL_READ "
      ++ "FLOW_CONTROL_HIGH_WATER_SSL_WRITE LOG_THRESHOLD_FOR_CONNLOST_WRITES "
      ++ "SENDFILE_FALLBACK_READBUFFER_SIZE SSL_HANDSHAKE_TIMEOUT SSL_SHUTDOWN_TIMEOUT"⟩,
  ⟨"asyncio.coroutines", false, "", "iscoroutine iscoroutinefunction", ""⟩,
  ⟨"asyncio.events", false,
    "AbstractEventLoop AbstractEventLoopPolicy AbstractServer BaseDefaultEventLoopPolicy Handle "
      ++ "TimerHandle",
    "get_child_watcher get_event_loop get_event_loop_policy get_running_loop new_event_loop "
      ++ "set_child_watcher set_event_loop set_event_loop_policy", ""⟩,
  ⟨"asyncio.exceptions", false,
    "BrokenBarrierError CancelledError IncompleteReadError InvalidStateError LimitOverrunError "
      ++ "SendfileNotAvailableError TimeoutError:builtins", "", ""⟩,
  ⟨"asyncio.format_helpers", false, "", "extract_stack", ""⟩,
  ⟨"asyncio.futures", false, "Future:_asyncio GenericAlias:types", "isfuture wrap_future",
    "STACK_DEBUG"⟩,
  ⟨"asyncio.locks", false, "Barrier BoundedSemaphore Condition Event Lock Semaphore", "", ""⟩,
  ⟨"asyncio.log", false, "", "", "logger"⟩,
  ⟨"asyncio.mixins", false, "", "", ""⟩,
  ⟨"asyncio.proactor_events", false, "BaseProactorEventLoop", "", "logger"⟩,
  ⟨"asyncio.protocols", false,
    "BaseProtocol BufferedProtocol DatagramProtocol Protocol SubprocessProtocol", "", ""⟩,
  ⟨"asyncio.queues", false, "GenericAlias:types LifoQueue PriorityQueue Queue QueueEmpty QueueFull",
    "", ""⟩,
  ⟨"asyncio.runners", false, "Runner", "run", ""⟩,
  ⟨"asyncio.selector_events", false, "BaseSelectorEventLoop", "", "logger"⟩,
  ⟨"asyncio.sslproto", false, "AppProtocolState SSLProtocol SSLProtocolState",
    "add_flowcontrol_defaults", "SSLAgainErrors logger"⟩,
  ⟨"asyncio.staggered", false, "", "staggered_race", ""⟩,
  ⟨"asyncio.streams", false, "FlowControlMixin StreamReader StreamReaderProtocol StreamWriter",
    "open_connection open_unix_connection sleep start_server start_unix_server", "logger"⟩,
  ⟨"asyncio.subprocess", false, "Process SubprocessStreamProtocol",
    "create_subprocess_exec create_subprocess_shell", "DEVNULL PIPE STDOUT logger"⟩,
  ⟨"asyncio.taskgroups", false, "TaskGroup", "", ""⟩,
  ⟨"asyncio.tasks", false, "GenericAlias:types Task:_asyncio",
    "all_tasks as_completed create_task current_task ensure_future gather "
      ++ "run_coroutine_threadsafe shield sleep wait wait_for",
    "ALL_COMPLETED FIRST_COMPLETED FIRST_EXCEPTION"⟩,
  ⟨"asyncio.threads", false, "", "to_thread", ""⟩,
  ⟨"asyncio.timeouts", false, "Timeout TracebackType:builtins:traceback",
    "final timeout timeout_at", "Optional Type"⟩,
  ⟨"asyncio.transports", false,
    "BaseTransport DatagramTransport ReadTransport SubprocessTransport Transport WriteTransport",
    "", ""⟩,
  ⟨"asyncio.trsock", false, "TransportSocket", "", ""⟩,
  ⟨"asyncio.unix_events", false,
    "AbstractChildWatcher BaseChildWatcher "
      ++ "DefaultEventLoopPolicy:asyncio.unix_events:_UnixDefaultEventLoopPolicy "
      ++ "FastChildWatcher MultiLoopChildWatcher PidfdChildWatcher SafeChildWatcher "
      ++ "SelectorEventLoop:asyncio.unix_events:_UnixSelectorEventLoop ThreadedChildWatcher",
    "waitstatus_to_exitcode", "logger"⟩,
  ⟨"asyncore", false, "ExitNow dispatcher dispatcher_with_send file_dispatcher file_wrapper",
    "close_all compact_traceback loop poll poll2 poll3 read readwrite write",
    "EAGAIN EALREADY EBADF ECONNABORTED ECONNRESET EINPROGRESS EINVAL EISCONN ENOTCONN EPIPE "
      ++ "ESHUTDOWN EWOULDBLOCK errorcode socket_map"⟩,
  ⟨"atexit", false, "", "register unregister", ""⟩,
  ⟨"audioop", false, "error",
    "add adpcm2lin alaw2lin avg avgpp bias byteswap cross findfactor findfit findmax getsample "
      ++ "lin2adpcm lin2alaw lin2lin lin2ulaw max maxpp minmax mul ratecv reverse rms tomono "
      ++ "tostereo ulaw2lin", ""⟩,
  ⟨"base64", false, "",
    "a85decode a85encode b16decode b16encode b32decode b32encode b32hexdecode b32hexencode "
      ++ "b64decode b64encode b85decode b85encode decode decodebytes encode encodebytes main "
      ++ "standard_b64decode standard_b64encode test urlsafe_b64decode urlsafe_b64encode",
    "MAXBINSIZE MAXLINESIZE bytes_types"⟩,
  ⟨"bdb", false, "Bdb BdbQuit Breakpoint Tdb", "bar checkfuncname effective foo set_trace test",
    "CO_ASYNC_GENERATOR CO_COROUTINE CO_GENERATOR GENERATOR_AND_COROUTINE_FLAGS"⟩,
  ⟨"binascii", false, "Error Incomplete",
    "a2b_base64 a2b_hex a2b_qp a2b_uu b2a_base64 b2a_hex b2a_qp b2a_uu crc32 crc_hqx hexlify "
      ++ "unhexlify", ""⟩,
  ⟨"bisect", false, "", "bisect bisect_left bisect_right insort insort_left insort_right", ""⟩,
  ⟨"builtins", false,
    "ArithmeticError AssertionError AttributeError BaseException BaseExceptionGroup "
      ++ "BlockingIOError BrokenPipeError BufferError BytesWarning ChildProcessError "
      ++ "ConnectionAbortedError ConnectionError ConnectionRefusedError ConnectionResetError "
      ++ "DeprecationWarning EOFError EncodingWarning EnvironmentError:builtins:OSError "
      ++ "Exception ExceptionGroup FileExistsError FileNotFoundError FloatingPointError "
      ++ "FutureWarning GeneratorExit IOError:builtins:OSError ImportError ImportWarning "
      ++ "IndentationError IndexError InterruptedError IsADirectoryError KeyError "
      ++ "KeyboardInterrupt LookupError MemoryError ModuleNotFoundError NameError "
      ++ "NotADirectoryError NotImplementedError OSError OverflowError "
      ++ "PendingDeprecationWarning PermissionError ProcessLookupError RecursionError "
      ++ "ReferenceError ResourceWarning RuntimeError RuntimeWarning StopAsyncIteration "
      ++ "StopIteration SyntaxError SyntaxWarning SystemError SystemExit TabError TimeoutError "
      ++ "TypeError UnboundLocalError UnicodeDecodeError UnicodeEncodeError UnicodeError "
      ++ "UnicodeTranslateError UnicodeWarning UserWarning ValueError Warning ZeroDivisionError "
      ++ "bool bytearray bytes classmethod complex dict enumerate filter float frozenset int "
      ++ "list map memoryview object property range reversed set slice staticmethod str super "
      ++ "tuple type zip",
    "abs aiter all anext any ascii bin breakpoint callable chr compile delattr dir divmod eval "
      ++ "exec format getattr globals hasattr hash hex id input isinstance issubclass iter len "
      ++ "locals max min next oct open ord pow print repr round setattr sorted sum vars",
    "Ellipsis False None NotImplemented True credits exit help quit"⟩,
  ⟨"bz2", false, "BZ2Compressor:_bz2 BZ2Decompressor:_bz2 BZ2File", "compress decompress open", ""⟩]

end WorkspaceLint.GivenModule
