import WorkspaceLint.Plugin.Given.Basic

/-!
# Standard modules from C to D

The modules of the standard library whose names begin with a letter from C to D, with the names
that they provide. Long series of numeric constants are left out.
-/

namespace WorkspaceLint.GivenModule

/-- The standard modules from C to D. -/
def standardCToD : List GivenModule := [
  ⟨"cProfile", false, "Profile", "label main run runctx", ""⟩,
  ⟨"calendar", false,
    "Calendar HTMLCalendar IllegalMonthError IllegalWeekdayError LocaleHTMLCalendar "
      ++ "LocaleTextCalendar TextCalendar different_locale error:builtins:ValueError "
      ++ "repeat:itertools",
    "format formatstring isleap leapdays main monthrange setfirstweekday timegm weekday",
    "EPOCH FRIDAY February January MONDAY SATURDAY SUNDAY THURSDAY TUESDAY WEDNESDAY c calendar "
      ++ "day_abbr day_name firstweekday mdays month month_abbr month_name monthcalendar prcal "
      ++ "prmonth prweek week weekheader"⟩,
  ⟨"cgi", false,
    "BytesIO:_io FeedParser:email.feedparser FieldStorage Mapping:collections.abc "
      ++ "Message:email.message MiniFieldStorage StringIO:_io TextIOWrapper:_io",
    "closelog dolog initlog log nolog parse parse_header parse_multipart print_arguments "
      ++ "print_directory print_environ print_environ_usage print_exception print_form test "
      ++ "valid_boundary", "logfile logfp maxlen"⟩,
  ⟨"cgitb", false, "Hook", "enable grey html html_escape lookup reset scanvars small strong text",
    "handler"⟩,
  ⟨"chunk", false, "Chunk", "", ""⟩,
  ⟨"cmath", false, "",
    "acos acosh asin asinh atan atanh cos cosh exp isclose isfinite isinf isnan log log10 phase "
      ++ "polar rect sin sinh sqrt tan tanh", "e inf infj nan nanj pi tau"⟩,
  ⟨"cmd", false, "Cmd", "", "IDENTCHARS PROMPT"⟩,
  ⟨"code", false, "CommandCompiler:codeop InteractiveConsole InteractiveInterpreter",
    "compile_command interact", ""⟩,
  ⟨"codecs", false,
    "BufferedIncrementalDecoder BufferedIncrementalEncoder Codec CodecInfo IncrementalDecoder "
      ++ "IncrementalEncoder StreamReader StreamReaderWriter StreamRecoder StreamWriter",
    "EncodedFile ascii_decode ascii_encode backslashreplace_errors charmap_build charmap_decode "
      ++ "charmap_encode decode encode escape_decode escape_encode getdecoder getencoder "
      ++ "getincrementaldecoder getincrementalencoder getreader getwriter ignore_errors "
      ++ "iterdecode iterencode latin_1_decode latin_1_encode lookup lookup_error "
      ++ "make_encoding_map make_identity_dict namereplace_errors open "
      ++ "raw_unicode_escape_decode raw_unicode_escape_encode readbuffer_encode register "
      ++ "register_error replace_errors strict_errors unicode_escape_decode "
      ++ "unicode_escape_encode unregister utf_16_be_decode utf_16_be_encode utf_16_decode "
      ++ "utf_16_encode utf_16_ex_decode utf_16_le_decode utf_16_le_encode utf_32_be_decode "
      ++ "utf_32_be_encode utf_32_decode utf_32_encode utf_32_ex_decode utf_32_le_decode "
      ++ "utf_32_le_encode utf_7_decode utf_7_encode utf_8_decode utf_8_encode "
      ++ "xmlcharrefreplace_errors", ""⟩,
  ⟨"codeop", false, "CommandCompiler Compile", "compile_command",
    "PyCF_ALLOW_INCOMPLETE_INPUT PyCF_DONT_IMPLY_DEDENT"⟩,
  ⟨"collections", true,
    "ChainMap Counter OrderedDict UserDict UserList UserString defaultdict deque", "namedtuple",
    ""⟩,
  ⟨"collections.abc", false,
    "AsyncGenerator AsyncIterable AsyncIterator Awaitable ByteString Callable Collection "
      ++ "Container Coroutine Generator Hashable ItemsView Iterable Iterator KeysView Mapping "
      ++ "MappingView MutableMapping MutableSequence MutableSet Reversible Sequence Set Sized "
      ++ "ValuesView", "", ""⟩,
  ⟨"colorsys", false, "", "hls_to_rgb hsv_to_rgb rgb_to_hls rgb_to_hsv rgb_to_yiq yiq_to_rgb",
    "ONE_SIXTH ONE_THIRD TWO_THIRD"⟩,
  ⟨"compileall", false, "Path:pathlib partial:functools",
    "compile_dir compile_file compile_path main", ""⟩,
  ⟨"concurrent", true, "", "", ""⟩,
  ⟨"concurrent.futures", true,
    "BrokenExecutor:concurrent.futures._base CancelledError:concurrent.futures._base "
      ++ "Executor:concurrent.futures._base Future:concurrent.futures._base "
      ++ "InvalidStateError:concurrent.futures._base TimeoutError:builtins", "as_completed wait",
    "ALL_COMPLETED FIRST_COMPLETED FIRST_EXCEPTION"⟩,
  ⟨"concurrent.futures.process", false,
    "BrokenProcessPool ProcessPoolExecutor Queue:multiprocessing.queues partial:functools",
    "format_exception", "EXTRA_QUEUED_CALLS"⟩,
  ⟨"concurrent.futures.thread", false, "BrokenThreadPool ThreadPoolExecutor", "", ""⟩,
  ⟨"configparser", false,
    "BasicInterpolation ConfigParser ConverterMapping DuplicateOptionError "
      ++ "DuplicateSectionError Error ExtendedInterpolation Interpolation "
      ++ "InterpolationDepthError InterpolationError InterpolationMissingOptionError "
      ++ "InterpolationSyntaxError LegacyInterpolation MissingSectionHeaderError "
      ++ "MutableMapping:collections.abc NoOptionError NoSectionError ParsingError "
      ++ "RawConfigParser SafeConfigParser SectionProxy", "",
    "DEFAULTSECT MAX_INTERPOLATION_DEPTH"⟩,
  ⟨"contextlib", false,
    "AbstractAsyncContextManager AbstractContextManager AsyncContextDecorator AsyncExitStack "
      ++ "ContextDecorator ExitStack GenericAlias:types MethodType:builtins:method aclosing "
      ++ "chdir closing deque:collections nullcontext redirect_stderr redirect_stdout suppress",
    "asynccontextmanager contextmanager wraps", ""⟩,
  ⟨"contextvars", false, "Context:_contextvars ContextVar:_contextvars Token:_contextvars",
    "copy_context", ""⟩,
  ⟨"copy", false, "Error error:copy:Error", "copy deepcopy", "dispatch_table"⟩,
  ⟨"copyreg", false, "",
    "add_extension clear_extension_cache constructor pickle pickle_complex pickle_union "
      ++ "remove_extension", "dispatch_table"⟩,
  ⟨"crypt", false, "", "crypt mksalt",
    "METHOD_BLOWFISH METHOD_CRYPT METHOD_MD5 METHOD_SHA256 METHOD_SHA512 methods"⟩,
  ⟨"csv", false,
    "Dialect DictReader DictWriter Error:_csv Sniffer StringIO:_io excel excel_tab unix_dialect",
    "field_size_limit get_dialect list_dialects reader register_dialect unregister_dialect "
      ++ "writer", "QUOTE_ALL QUOTE_MINIMAL QUOTE_NONE QUOTE_NONNUMERIC"⟩,
  ⟨"ctypes", true,
    "ArgumentError Array:_ctypes BigEndianStructure:ctypes._endian "
      ++ "BigEndianUnion:ctypes._endian CDLL LibraryLoader "
      ++ "LittleEndianStructure:_ctypes:Structure LittleEndianUnion:_ctypes:Union PyDLL "
      ++ "Structure:_ctypes Union:_ctypes c_bool c_byte c_char c_char_p c_double c_float c_int "
      ++ "c_int16:ctypes:c_short c_int32:ctypes:c_int c_int64:ctypes:c_long "
      ++ "c_int8:ctypes:c_byte c_long c_longdouble c_longlong:ctypes:c_long c_short "
      ++ "c_size_t:ctypes:c_ulong c_ssize_t:ctypes:c_long c_ubyte c_uint "
      ++ "c_uint16:ctypes:c_ushort c_uint32:ctypes:c_uint c_uint64:ctypes:c_ulong "
      ++ "c_uint8:ctypes:c_ubyte c_ulong c_ulonglong:ctypes:c_ulong c_ushort c_void_p "
      ++ "c_voidp:ctypes:c_void_p c_wchar c_wchar_p py_object",
    "ARRAY CFUNCTYPE POINTER PYFUNCTYPE SetPointerType addressof alignment byref c_buffer cast "
      ++ "create_string_buffer create_unicode_buffer get_errno pointer resize set_errno sizeof "
      ++ "string_at wstring_at", "DEFAULT_MODE RTLD_GLOBAL RTLD_LOCAL cdll memmove memset pydll"⟩,
  ⟨"ctypes.macholib", true, "", "", ""⟩,
  ⟨"ctypes.macholib.dyld", false,
    "accumulate:itertools chain:itertools combinations:itertools "
      ++ "combinations_with_replacement:itertools compress:itertools count:itertools "
      ++ "cycle:itertools dropwhile:itertools filterfalse:itertools groupby:itertools "
      ++ "islice:itertools pairwise:itertools permutations:itertools product:itertools "
      ++ "repeat:itertools starmap:itertools takewhile:itertools zip_longest:itertools",
    "dyld_default_search dyld_env dyld_executable_path_search dyld_fallback_framework_path "
      ++ "dyld_fallback_library_path dyld_find dyld_framework_path dyld_image_suffix "
      ++ "dyld_image_suffix_search dyld_library_path dyld_override_search dylib_info "
      ++ "framework_find framework_info tee",
    "DEFAULT_FRAMEWORK_FALLBACK DEFAULT_LIBRARY_FALLBACK"⟩,
  ⟨"ctypes.macholib.dylib", false, "", "dylib_info", "DYLIB_RE"⟩,
  ⟨"ctypes.macholib.framework", false, "", "framework_info", "STRICT_FRAMEWORK_RE"⟩,
  ⟨"ctypes.util", false, "", "find_library test", ""⟩,
  ⟨"ctypes.wintypes", false,
    "ATOM:ctypes:c_ushort BOOL:ctypes:c_long BOOLEAN:ctypes:c_byte BYTE:ctypes:c_byte "
      ++ "CHAR:ctypes:c_char COLORREF:ctypes:c_ulong DOUBLE:ctypes:c_double "
      ++ "DWORD:ctypes:c_ulong FILETIME FLOAT:ctypes:c_float HACCEL:ctypes:c_void_p "
      ++ "HANDLE:ctypes:c_void_p HBITMAP:ctypes:c_void_p HBRUSH:ctypes:c_void_p "
      ++ "HCOLORSPACE:ctypes:c_void_p HDC:ctypes:c_void_p HDESK:ctypes:c_void_p "
      ++ "HDWP:ctypes:c_void_p HENHMETAFILE:ctypes:c_void_p HFONT:ctypes:c_void_p "
      ++ "HGDIOBJ:ctypes:c_void_p HGLOBAL:ctypes:c_void_p HHOOK:ctypes:c_void_p "
      ++ "HICON:ctypes:c_void_p HINSTANCE:ctypes:c_void_p HKEY:ctypes:c_void_p "
      ++ "HKL:ctypes:c_void_p HLOCAL:ctypes:c_void_p HMENU:ctypes:c_void_p "
      ++ "HMETAFILE:ctypes:c_void_p HMODULE:ctypes:c_void_p HMONITOR:ctypes:c_void_p "
      ++ "HPALETTE:ctypes:c_void_p HPEN:ctypes:c_void_p HRGN:ctypes:c_void_p "
      ++ "HRSRC:ctypes:c_void_p HSTR:ctypes:c_void_p HTASK:ctypes:c_void_p "
      ++ "HWINSTA:ctypes:c_void_p HWND:ctypes:c_void_p INT:ctypes:c_int LANGID:ctypes:c_ushort "
      ++ "LARGE_INTEGER:ctypes:c_long LCID:ctypes:c_ulong LCTYPE:ctypes:c_ulong "
      ++ "LGRPID:ctypes:c_ulong LONG:ctypes:c_long LPARAM:ctypes:c_long "
      ++ "LPBOOL:ctypes.wintypes:LP_c_long LPBYTE:ctypes.wintypes:LP_c_byte "
      ++ "LPCOLESTR:ctypes:c_wchar_p LPCOLORREF:ctypes.wintypes:LP_c_ulong "
      ++ "LPCSTR:ctypes:c_char_p LPCVOID:ctypes:c_void_p LPCWSTR:ctypes:c_wchar_p "
      ++ "LPDWORD:ctypes.wintypes:LP_c_ulong LPFILETIME:ctypes.wintypes:LP_FILETIME "
      ++ "LPHANDLE:ctypes.wintypes:LP_c_void_p LPHKL:ctypes.wintypes:LP_c_void_p "
      ++ "LPINT:ctypes.wintypes:LP_c_int LPLONG:ctypes.wintypes:LP_c_long "
      ++ "LPMSG:ctypes.wintypes:LP_MSG LPOLESTR:ctypes:c_wchar_p "
      ++ "LPPOINT:ctypes.wintypes:LP_POINT LPRECT:ctypes.wintypes:LP_RECT "
      ++ "LPRECTL:ctypes.wintypes:LP_RECT LPSC_HANDLE:ctypes.wintypes:LP_c_void_p "
      ++ "LPSIZE:ctypes.wintypes:LP_SIZE LPSIZEL:ctypes.wintypes:LP_SIZE LPSTR:ctypes:c_char_p "
      ++ "LPUINT:ctypes.wintypes:LP_c_uint LPVOID:ctypes:c_void_p "
      ++ "LPWIN32_FIND_DATAA:ctypes.wintypes:LP_WIN32_FIND_DATAA "
      ++ "LPWIN32_FIND_DATAW:ctypes.wintypes:LP_WIN32_FIND_DATAW "
      ++ "LPWORD:ctypes.wintypes:LP_c_ushort LPWSTR:ctypes:c_wchar_p MSG "
      ++ "OLESTR:ctypes:c_wchar_p PBOOL:ctypes.wintypes:LP_c_long "
      ++ "PBOOLEAN:ctypes.wintypes:LP_c_byte PBYTE:ctypes.wintypes:LP_c_byte "
      ++ "PCHAR:ctypes:LP_c_char PDWORD:ctypes.wintypes:LP_c_ulong "
      ++ "PFILETIME:ctypes.wintypes:LP_FILETIME PFLOAT:ctypes.wintypes:LP_c_float "
      ++ "PHANDLE:ctypes.wintypes:LP_c_void_p PHKEY:ctypes.wintypes:LP_c_void_p "
      ++ "PINT:ctypes.wintypes:LP_c_int PLARGE_INTEGER:ctypes.wintypes:LP_c_long "
      ++ "PLCID:ctypes.wintypes:LP_c_ulong PLONG:ctypes.wintypes:LP_c_long "
      ++ "PMSG:ctypes.wintypes:LP_MSG POINT POINTL:ctypes.wintypes:POINT "
      ++ "PPOINT:ctypes.wintypes:LP_POINT PPOINTL:ctypes.wintypes:LP_POINT "
      ++ "PRECT:ctypes.wintypes:LP_RECT PRECTL:ctypes.wintypes:LP_RECT "
      ++ "PSHORT:ctypes.wintypes:LP_c_short PSIZE:ctypes.wintypes:LP_SIZE "
      ++ "PSIZEL:ctypes.wintypes:LP_SIZE PSMALL_RECT:ctypes.wintypes:LP__SMALL_RECT "
      ++ "PUINT:ctypes.wintypes:LP_c_uint PULARGE_INTEGER:ctypes.wintypes:LP_c_ulong "
      ++ "PULONG:ctypes.wintypes:LP_c_ulong PUSHORT:ctypes.wintypes:LP_c_ushort "
      ++ "PWCHAR:ctypes:LP_c_wchar PWIN32_FIND_DATAA:ctypes.wintypes:LP_WIN32_FIND_DATAA "
      ++ "PWIN32_FIND_DATAW:ctypes.wintypes:LP_WIN32_FIND_DATAW "
      ++ "PWORD:ctypes.wintypes:LP_c_ushort RECT RECTL:ctypes.wintypes:RECT "
      ++ "SC_HANDLE:ctypes:c_void_p SERVICE_STATUS_HANDLE:ctypes:c_void_p SHORT:ctypes:c_short "
      ++ "SIZE SIZEL:ctypes.wintypes:SIZE SMALL_RECT:ctypes.wintypes:_SMALL_RECT "
      ++ "UINT:ctypes:c_uint ULARGE_INTEGER:ctypes:c_ulong ULONG:ctypes:c_ulong "
      ++ "USHORT:ctypes:c_ushort VARIANT_BOOL WCHAR:ctypes:c_wchar WIN32_FIND_DATAA "
      ++ "WIN32_FIND_DATAW WORD:ctypes:c_ushort WPARAM:ctypes:c_ulong "
      ++ "tagMSG:ctypes.wintypes:MSG tagPOINT:ctypes.wintypes:POINT "
      ++ "tagRECT:ctypes.wintypes:RECT tagSIZE:ctypes.wintypes:SIZE", "RGB", ""⟩,
  ⟨"curses", true, "error:_curses window:_curses",
    "baudrate beep can_change_color cbreak color_content color_pair curs_set def_prog_mode "
      ++ "def_shell_mode delay_output doupdate echo endwin erasechar filter flash flushinp "
      ++ "get_escdelay get_tabsize getmouse getsyx getwin halfdelay has_colors "
      ++ "has_extended_color_support has_ic has_il has_key init_color init_pair initscr "
      ++ "intrflush is_term_resized isendwin keyname killchar longname meta mouseinterval "
      ++ "mousemask napms newpad newwin nl nocbreak noecho nonl noqiflush noraw pair_content "
      ++ "pair_number putp qiflush raw reset_prog_mode reset_shell_mode resetty resize_term "
      ++ "resizeterm savetty set_escdelay set_tabsize setsyx setupterm start_color termattrs "
      ++ "termname tigetflag tigetnum tigetstr tparm typeahead unctrl unget_wch ungetch "
      ++ "ungetmouse update_lines_cols use_default_colors use_env wrapper",
    "ncurses_version version"⟩,
  ⟨"curses.ascii", false, "",
    "alt ascii ctrl isalnum isalpha isascii isblank iscntrl isctrl isdigit isgraph islower "
      ++ "ismeta isprint ispunct isspace isupper isxdigit unctrl", "controlnames"⟩,
  ⟨"curses.has_key", false, "", "has_key", ""⟩,
  ⟨"curses.panel", false, "error:_curses_panel panel:_curses_panel",
    "bottom_panel new_panel top_panel update_panels", "version"⟩,
  ⟨"curses.textpad", false, "Textbox", "rectangle", ""⟩,
  ⟨"dataclasses", false,
    "Field FrozenInstanceError FunctionType:builtins:function GenericAlias:types InitVar",
    "asdict astuple dataclass field fields is_dataclass make_dataclass replace", "KW_ONLY MISSING"⟩,
  ⟨"datetime", false, "date datetime time timedelta timezone tzinfo", "",
    "MAXYEAR MINYEAR UTC datetime_CAPI"⟩,
  ⟨"dbm", true, "", "open whichdb", "error"⟩,
  ⟨"dbm.dumb", false, "error:builtins:OSError", "open", ""⟩,
  ⟨"dbm.ndbm", false, "error:_dbm", "open", "library"⟩,
  ⟨"decimal", false,
    "Clamped Context ConversionSyntax Decimal DecimalException DecimalTuple DivisionByZero "
      ++ "DivisionImpossible DivisionUndefined FloatOperation Inexact InvalidContext "
      ++ "InvalidOperation Overflow Rounded Subnormal Underflow",
    "getcontext localcontext setcontext",
    "BasicContext DefaultContext ExtendedContext HAVE_CONTEXTVAR HAVE_THREADS MAX_EMAX MAX_PREC "
      ++ "MIN_EMIN MIN_ETINY ROUND_05UP ROUND_CEILING ROUND_DOWN ROUND_FLOOR ROUND_HALF_DOWN "
      ++ "ROUND_HALF_EVEN ROUND_HALF_UP ROUND_UP"⟩,
  ⟨"difflib", false, "Differ GenericAlias:types HtmlDiff Match SequenceMatcher",
    "IS_CHARACTER_JUNK IS_LINE_JUNK context_diff diff_bytes get_close_matches ndiff restore "
      ++ "unified_diff", ""⟩,
  ⟨"dis", false, "Bytecode Instruction Positions",
    "code_info dis disassemble disco distb findlabels findlinestarts get_instructions main "
      ++ "pretty_flags show_code stack_effect",
    "cmp_op deoptmap hascompare hasconst hasfree hasjabs hasjrel haslocal hasname hasnargs "
      ++ "opmap opname spec_op specialized"⟩,
  ⟨"distutils", true, "", "", ""⟩,
  ⟨"doctest", false,
    "DebugRunner DocFileCase DocTest DocTestCase DocTestFailure DocTestFinder DocTestParser "
      ++ "DocTestRunner Example IncrementalNewlineDecoder:_io OutputChecker SkipDocTestCase "
      ++ "StringIO:_io TestResults UnexpectedException",
    "DocFileSuite DocFileTest DocTestSuite debug debug_script debug_src namedtuple "
      ++ "register_optionflag run_docstring_examples script_from_examples "
      ++ "set_unittest_reportflags testfile testmod testsource", "master"⟩]

end WorkspaceLint.GivenModule
