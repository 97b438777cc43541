import WorkspaceLint.Plugin.Given.Basic

/-!
# Standard modules from E to I

The modules of the standard library whose names begin with a letter from E to I, with the names
that they provide. Long series of numeric constants are left out.
-/

namespace WorkspaceLint.GivenModule

/-- The standard modules from E to I. -/
def standardEToI : List GivenModule := [
  ⟨"__future__", false, "", "",
    "CO_FUTURE_ABSOLUTE_IMPORT CO_FUTURE_ANNOTATIONS CO_FUTURE_BARRY_AS_BDFL CO_FUTURE_DIVISION "
      ++ "CO_FUTURE_GENERATOR_STOP CO_FUTURE_PRINT_FUNCTION CO_FUTURE_UNICODE_LITERALS "
      ++ "CO_FUTURE_WITH_STATEMENT CO_GENERATOR_ALLOWED CO_NESTED absolute_import "
      ++ "all_feature_names annotations barry_as_FLUFL division generator_stop generators "
      ++ "nested_scopes print_function unicode_literals with_statement"⟩,
  ⟨"email", true, "",
    "message_from_binary_file message_from_bytes message_from_file message_from_string", ""⟩,
  ⟨"email.base64mime", false, "",
    "a2b_base64 b2a_base64 b64encode body_decode body_encode decode decodestring header_encode "
      ++ "header_length", "CRLF EMPTYSTRING MISC_LEN NL"⟩,
  ⟨"email.charset", false, "Charset partial:functools",
    "add_alias add_charset add_codec encode_7or8bit",
    "ALIASES BASE64 CHARSETS CODEC_MAP DEFAULT_CHARSET EMPTYSTRING QP RFC2047_CHROME_LEN "
      ++ "SHORTEST UNKNOWN8BIT"⟩,
  ⟨"email.contentmanager", false, "ContentManager",
    "get_and_fixup_unknown_message_content get_message_content get_non_text_content "
      ++ "get_text_content set_bytes_content set_message_content set_text_content",
    "raw_data_manager"⟩,
  ⟨"email.encoders", false, "", "encode_7or8bit encode_base64 encode_noop encode_quopri", ""⟩,
  ⟨"email.errors", false,
    "BoundaryError CharsetError CloseBoundaryNotFoundDefect FirstHeaderLineIsContinuationDefect "
      ++ "HeaderDefect HeaderMissingRequiredValue HeaderParseError HeaderWriteError "
      ++ "InvalidBase64CharactersDefect InvalidBase64LengthDefect InvalidBase64PaddingDefect "
      ++ "InvalidDateDefect InvalidHeaderDefect InvalidMultipartContentTransferEncodingDefect "
      ++ "MalformedHeaderDefect:email.errors:MissingHeaderBodySeparatorDefect MessageDefect "
      ++ "MessageError MessageParseError MisplacedEnvelopeHeaderDefect "
      ++ "MissingHeaderBodySeparatorDefect MultipartConversionError "
      ++ "MultipartInvariantViolationDefect NoBoundaryInMultipartDefect NonASCIILocalPartDefect "
      ++ "NonPrintableDefect ObsoleteHeaderDefect StartBoundaryNotFoundDefect "
      ++ "UndecodableBytesDefect", "", ""⟩,
  ⟨"email.feedparser", false,
    "BufferedSubFile BytesFeedParser FeedParser StringIO:_io deque:collections", "",
    "EMPTYSTRING NL NLCRE NLCRE_bol NLCRE_crack NLCRE_eol NeedMoreData compat32 headerRE"⟩,
  ⟨"email.generator", false,
    "BytesGenerator BytesIO:_io DecodedGenerator Generator HeaderWriteError:email.errors "
      ++ "StringIO:_io", "deepcopy", "NEWLINE_WITHOUT_FWSP NL NLCRE UNDERSCORE fcre"⟩,
  ⟨"email.header", false, "Charset:email.charset Header HeaderParseError:email.errors",
    "decode_header make_header",
    "BSPACE EMPTYSTRING FWS MAXLINELEN NL SPACE SPACE8 USASCII UTF8 ecre fcre"⟩,
  ⟨"email.headerregistry", false,
    "Address AddressHeader BaseHeader ContentDispositionHeader ContentTransferEncodingHeader "
      ++ "ContentTypeHeader DateHeader Group HeaderRegistry MIMEVersionHeader "
      ++ "MappingProxyType:builtins:mappingproxy MessageIDHeader ParameterizedMIMEHeader "
      ++ "SingleAddressHeader UniqueAddressHeader UniqueDateHeader UniqueSingleAddressHeader "
      ++ "UniqueUnstructuredHeader UnstructuredHeader", "", ""⟩,
  ⟨"email.iterators", false, "StringIO:_io", "body_line_iterator typed_subpart_iterator walk", ""⟩,
  ⟨"email.message", false,
    "BytesIO:_io Charset:email.charset EmailMessage MIMEPart Message Policy:email._policybase "
      ++ "StringIO:_io", "decode_b", "SEMISPACE compat32 tspecials"⟩,
  ⟨"email.mime", true, "", "", ""⟩,
  ⟨"email.mime.application", false, "MIMEApplication MIMENonMultipart:email.mime.nonmultipart", "",
    ""⟩,
  ⟨"email.mime.audio", false, "BytesIO:_io MIMEAudio MIMENonMultipart:email.mime.nonmultipart",
    "rule", ""⟩,
  ⟨"email.mime.base", false, "MIMEBase", "", ""⟩,
  ⟨"email.mime.image", false, "MIMEImage MIMENonMultipart:email.mime.nonmultipart", "rule", ""⟩,
  ⟨"email.mime.message", false, "MIMEMessage MIMENonMultipart:email.mime.nonmultipart", "", ""⟩,
  ⟨"email.mime.multipart", false, "MIMEBase:email.mime.base MIMEMultipart", "", ""⟩,
  ⟨"email.mime.nonmultipart", false, "MIMEBase:email.mime.base MIMENonMultipart", "", ""⟩,
  ⟨"email.mime.text", false,
    "Charset:email.charset MIMENonMultipart:email.mime.nonmultipart MIMEText", "", ""⟩,
  ⟨"email.parser", false,
    "BytesFeedParser:email.feedparser BytesHeaderParser BytesParser FeedParser:email.feedparser "
      ++ "HeaderParser Parser StringIO:_io TextIOWrapper:_io", "", "compat32"⟩,
  ⟨"email.policy", false,
    "Compat32:email._policybase EmailMessage:email.message EmailPolicy "
      ++ "HeaderRegistry:email.headerregistry Policy:email._policybase", "",
    "HTTP SMTP SMTPUTF8 compat32 default linesep_splitter raw_data_manager strict"⟩,
  ⟨"email.quoprimime", false, "",
    "body_check body_decode body_encode body_length decode decodestring header_check "
      ++ "header_decode header_encode header_length quote unquote",
    "CRLF EMPTYSTRING NL ascii_letters digits hexdigits"⟩,
  ⟨"email.utils", false, "Charset:email.charset",
    "collapse_rfc2231_value decode_params decode_rfc2231 encode_rfc2231 format_datetime "
      ++ "formataddr formatdate getaddresses localtime make_msgid mktime_tz parseaddr parsedate "
      ++ "parsedate_to_datetime parsedate_tz quote unquote",
    "COMMASPACE CRLF EMPTYSTRING TICK UEMPTYSTRING escapesre rfc2231_continuation specialsre "
      ++ "supports_strict_parsing"⟩,
  ⟨"encodings", true, "", "", ""⟩,
  ⟨"encodings.aliases", false, "", "", ""⟩,
  ⟨"encodings.ascii", false, "", "", ""⟩,
  ⟨"encodings.idna", false, "", "", ""⟩,
  ⟨"encodings.latin_1", false, "", "", ""⟩,
  ⟨"encodings.utf_8", false, "", "", ""⟩,
  ⟨"ensurepip", true, "", "", ""⟩,
  ⟨"enum", false,
    "DynamicClassAttribute:types Enum EnumCheck EnumMeta:enum:EnumType EnumType Flag "
      ++ "FlagBoundary IntEnum IntFlag MappingProxyType:builtins:mappingproxy ReprEnum StrEnum "
      ++ "auto member nonmember property verify",
    "bin global_enum global_enum_repr global_flag_repr global_str pickle_by_enum_name "
      ++ "pickle_by_global_name reduce show_flag_values unique",
    "CONFORM CONTINUOUS EJECT KEEP NAMED_FLAGS STRICT UNIQUE"⟩,
  ⟨"errno", false, "", "", "errorcode"⟩,
  ⟨"faulthandler", false, "",
    "cancel_dump_traceback_later disable dump_traceback dump_traceback_later enable is_enabled "
      ++ "register unregister", ""⟩,
  ⟨"fcntl", false, "", "fcntl flock ioctl lockf", ""⟩,
  ⟨"filecmp", false, "GenericAlias:types dircmp filterfalse:itertools",
    "clear_cache cmp cmpfiles demo", "BUFSIZE DEFAULT_IGNORES"⟩,
  ⟨"fileinput", false, "FileInput GenericAlias:types",
    "close filelineno filename fileno hook_compressed hook_encoded input isfirstline isstdin "
      ++ "lineno nextfile", ""⟩,
  ⟨"fnmatch", false, "", "filter fnmatch fnmatchcase translate", ""⟩,
  ⟨"fractions", false, "Decimal:decimal Fraction", "", ""⟩,
  ⟨"ftplib", false, "Error FTP FTP_TLS error_perm error_proto error_reply error_temp",
    "ftpcp parse150 parse227 parse229 parse257 print_line test", "all_errors"⟩,
  ⟨"functools", false,
    "GenericAlias:types RLock:_thread cached_property partial partialmethod singledispatchmethod",
    "cache cmp_to_key get_cache_token lru_cache namedtuple recursive_repr reduce singledispatch "
      ++ "total_ordering update_wrapper wraps", "WRAPPER_ASSIGNMENTS WRAPPER_UPDATES"⟩,
  ⟨"gc", false, "",
    "collect disable enable freeze get_count get_debug get_freeze_count get_objects "
      ++ "get_referents get_referrers get_stats get_threshold is_finalized is_tracked isenabled "
      ++ "set_debug set_threshold unfreeze",
    "DEBUG_COLLECTABLE DEBUG_LEAK DEBUG_SAVEALL DEBUG_STATS DEBUG_UNCOLLECTABLE callbacks "
      ++ "garbage"⟩,
  ⟨"genericpath", false, "",
    "commonprefix exists getatime getctime getmtime getsize isdir isfile samefile sameopenfile "
      ++ "samestat", ""⟩,
  ⟨"getopt", false, "GetoptError error:getopt:GetoptError",
    "do_longs do_shorts getopt gnu_getopt long_has_args short_has_arg", ""⟩,
  ⟨"getpass", false, "GetPassWarning", "fallback_getpass getpass getuser unix_getpass win_getpass",
    ""⟩,
  ⟨"gettext", false, "",
    "Catalog bindtextdomain c2py dgettext dngettext dnpgettext dpgettext find gettext install "
      ++ "ngettext npgettext pgettext textdomain", ""⟩,
  ⟨"glob", false, "", "escape glob glob0 glob1 has_magic iglob", "magic_check magic_check_bytes"⟩,
  ⟨"graphlib", false, "CycleError GenericAlias:types TopologicalSorter", "", ""⟩,
  ⟨"grp", false, "struct_group", "getgrall getgrgid getgrnam", ""⟩,
  ⟨"gzip", false, "BadGzipFile GzipFile", "compress decompress main open write32u",
    "FCOMMENT FEXTRA FHCRC FNAME FTEXT READ WRITE"⟩,
  ⟨"hashlib", false, "blake2b:_blake2 blake2s:_blake2",
    "file_digest md5 new pbkdf2_hmac scrypt sha1 sha224 sha256 sha384 sha3_224 sha3_256 "
      ++ "sha3_384 sha3_512 sha512 shake_128 shake_256",
    "algorithms_available algorithms_guaranteed"⟩,
  ⟨"heapq", false, "", "heapify heappop heappush heappushpop heapreplace merge nlargest nsmallest",
    ""⟩,
  ⟨"hmac", false, "HMAC", "compare_digest digest new", "digest_size trans_36 trans_5C"⟩,
  ⟨"html", true, "", "escape unescape", ""⟩,
  ⟨"html.entities", false, "", "", "codepoint2name entitydefs html5 name2codepoint"⟩,
  ⟨"html.parser", false, "HTMLParser", "unescape",
    "attrfind_tolerant charref commentclose endendtag endtagfind entityref incomplete "
      ++ "interesting_normal locatestarttagend_tolerant piclose starttagopen tagfind_tolerant"⟩,
  ⟨"http", true, "HTTPMethod HTTPStatus IntEnum:enum StrEnum:enum", "", ""⟩,
  ⟨"http.client", false,
    "BadStatusLine CannotSendHeader CannotSendRequest HTTPConnection HTTPException HTTPMessage "
      ++ "HTTPResponse HTTPSConnection ImproperConnectionState IncompleteRead InvalidURL "
      ++ "LineTooLong NotConnected RemoteDisconnected ResponseNotReady UnimplementedFileMode "
      ++ "UnknownProtocol UnknownTransferEncoding error:http.client:HTTPException", "parse_headers",
    "responses urlsplit"⟩,
  ⟨"http.cookiejar", false,
    "Absent Cookie CookieJar CookiePolicy DefaultCookiePolicy FileCookieJar LWPCookieJar "
      ++ "LoadError MozillaCookieJar",
    "deepvalues domain_match eff_request_host escape_path http2time is_HDN is_third_party "
      ++ "iso2time join_header_words liberal_is_HDN lwp_cookie_str offset_from_tz_string "
      ++ "parse_ns_headers reach request_host request_path request_port split_header_words "
      ++ "strip_quotes time2isoz time2netscape timegm unmatched uppercase_escaped_char "
      ++ "user_domain_match", "cut_port_re debug logger"⟩,
  ⟨"http.cookies", false, "BaseCookie CookieError Morsel SimpleCookie", "", ""⟩,
  ⟨"http.server", false,
    "BaseHTTPRequestHandler CGIHTTPRequestHandler HTTPServer HTTPStatus:http "
      ++ "SimpleHTTPRequestHandler ThreadingHTTPServer", "executable nobody_uid test",
    "DEFAULT_ERROR_CONTENT_TYPE DEFAULT_ERROR_MESSAGE nobody"⟩,
  ⟨"idlelib", true, "", "", ""⟩,
  ⟨"imaplib", false,
    "IMAP4 IMAP4_SSL IMAP4_stream datetime:datetime timedelta:datetime timezone:datetime",
    "Int2AP Internaldate2tuple ParseFlags Time2Internaldate",
    "AllowedVersions Commands Continuation Debug Flags InternalDate Literal MapCRLF Mon2num "
      ++ "Months Response_code Untagged_response Untagged_status"⟩,
  ⟨"imghdr", false, "PathLike:os",
    "test test_bmp test_exr test_gif test_jpeg test_pbm test_pgm test_png test_ppm test_rast "
      ++ "test_rgb test_tiff test_webp test_xbm testall what", "tests"⟩,
  ⟨"imp", false, "NullImporter SourcelessFileLoader:_frozen_importlib_external",
    "acquire_lock cache_from_source create_dynamic find_module get_frozen_object get_magic "
      ++ "get_suffixes get_tag init_builtin init_frozen is_builtin is_frozen is_frozen_package "
      ++ "load_compiled load_dynamic load_module load_package load_source lock_held new_module "
      ++ "release_lock reload source_from_cache",
    "C_BUILTIN C_EXTENSION IMP_HOOK PKG_DIRECTORY PY_CODERESOURCE PY_COMPILED PY_FROZEN "
      ++ "PY_RESOURCE PY_SOURCE SEARCH_ERROR"⟩,
  ⟨"importlib", true, "", "find_loader import_module invalidate_caches reload", ""⟩,
  ⟨"importlib.abc", false,
    "ExecutionLoader FileLoader Finder InspectLoader Loader:importlib._abc MetaPathFinder "
      ++ "PathEntryFinder ResourceLoader ResourceReader:importlib.resources.abc SourceLoader "
      ++ "Traversable:importlib.resources.abc TraversableResources:importlib.resources.abc", "",
    ""⟩,
  ⟨"importlib.machinery", false,
    "BuiltinImporter:_frozen_importlib ExtensionFileLoader:_frozen_importlib_external "
      ++ "FileFinder:_frozen_importlib_external FrozenImporter:_frozen_importlib "
      ++ "ModuleSpec:_frozen_importlib NamespaceLoader:_frozen_importlib_external "
      ++ "PathFinder:_frozen_importlib_external SourceFileLoader:_frozen_importlib_external "
      ++ "SourcelessFileLoader:_frozen_importlib_external "
      ++ "WindowsRegistryFinder:_frozen_importlib_external", "all_suffixes",
    "BYTECODE_SUFFIXES DEBUG_BYTECODE_SUFFIXES EXTENSION_SUFFIXES OPTIMIZED_BYTECODE_SUFFIXES "
      ++ "SOURCE_SUFFIXES"⟩,
  ⟨"importlib.metadata", true,
    "Deprecated DeprecatedList DeprecatedTuple Distribution DistributionFinder EntryPoint "
      ++ "EntryPoints FastPath FileHash FreezableDefaultDict:importlib.metadata._collections "
      ++ "Lookup MetaPathFinder:importlib.abc MetadataPathFinder "
      ++ "PackageMetadata:importlib.metadata._meta PackageNotFoundError PackagePath "
      ++ "Pair:importlib.metadata._collections PathDistribution Prepared Sectioned "
      ++ "SelectableGroups SimplePath:importlib.metadata._meta starmap:itertools "
      ++ "suppress:contextlib",
    "always_iterable distribution distributions entry_points files import_module metadata "
      ++ "method_cache packages_distributions pass_none requires unique_everseen version",
    "List Mapping Optional Union"⟩,
  ⟨"importlib.readers", false,
    "FileReader:importlib.resources.readers MultiplexedPath:importlib.resources.readers "
      ++ "NamespaceReader:importlib.resources.readers ZipReader:importlib.resources.readers", "",
    ""⟩,
  ⟨"importlib.resources", true, "Resource:builtins:str ResourceReader:importlib.resources.abc",
    "as_file contents files is_resource open_binary open_text path read_binary read_text",
    "Package"⟩,
  ⟨"importlib.resources.abc", false,
    "Any:typing BinaryIO:typing Protocol:typing ResourceReader Text:builtins:str Traversable "
      ++ "TraversableResources", "runtime_checkable",
    "Iterable Iterator NoReturn Optional StrPath Union"⟩,
  ⟨"importlib.resources.readers", false, "FileReader MultiplexedPath NamespaceReader ZipReader",
    "remove_duplicates unique_everseen", ""⟩,
  ⟨"importlib.resources.simple", false,
    "BinaryIO:typing ResourceContainer ResourceHandle SimpleReader "
      ++ "Traversable:importlib.resources.abc TraversableReader "
      ++ "TraversableResources:importlib.resources.abc", "", "List"⟩,
  ⟨"importlib.simple", false,
    "ResourceContainer:importlib.resources.simple ResourceHandle:importlib.resources.simple "
      ++ "SimpleReader:importlib.resources.simple TraversableReader:importlib.resources.simple", "",
    ""⟩,
  ⟨"importlib.util", false, "LazyLoader Loader:importlib._abc",
    "cache_from_source contextmanager decode_source find_spec module_for_loader "
      ++ "module_from_spec resolve_name set_loader set_package source_from_cache source_hash "
      ++ "spec_from_file_location spec_from_loader", "MAGIC_NUMBER"⟩,
  ⟨"inspect", false,
    "ArgInfo Arguments Attribute BlockFinder BoundArguments ClassFoundException ClosureVars "
      ++ "EndOfBlock FrameInfo FullArgSpec OrderedDict:collections Parameter Signature "
      ++ "Traceback attrgetter:operator",
    "classify_class_attrs cleandoc currentframe findsource formatannotation "
      ++ "formatannotationrelativeto formatargvalues get_annotations getabsfile getargs "
      ++ "getargvalues getattr_static getblock getcallargs getclasstree getclosurevars "
      ++ "getcomments getcoroutinelocals getcoroutinestate getdoc getfile getframeinfo "
      ++ "getfullargspec getgeneratorlocals getgeneratorstate getinnerframes getlineno "
      ++ "getmembers getmembers_static getmodule getmodulename getmro getouterframes getsource "
      ++ "getsourcefile getsourcelines indentsize isabstract isasyncgen isasyncgenfunction "
      ++ "isawaitable isbuiltin isclass iscode iscoroutine iscoroutinefunction isdatadescriptor "
      ++ "isframe isfunction isgenerator isgeneratorfunction isgetsetdescriptor iskeyword "
      ++ "ismemberdescriptor ismethod ismethoddescriptor ismethodwrapper ismodule isroutine "
      ++ "istraceback namedtuple signature stack trace unwrap walktree", "modulesbyfile"⟩,
  ⟨"io", false,
    "BlockingIOError:builtins BufferedIOBase BufferedRWPair:_io BufferedRandom:_io "
      ++ "BufferedReader:_io BufferedWriter:_io BytesIO:_io FileIO:_io IOBase "
      ++ "IncrementalNewlineDecoder:_io RawIOBase StringIO:_io TextIOBase TextIOWrapper:_io "
      ++ "UnsupportedOperation", "open open_code text_encoding",
    "DEFAULT_BUFFER_SIZE SEEK_CUR SEEK_END SEEK_SET"⟩,
  ⟨"ipaddress", false,
    "AddressValueError IPv4Address IPv4Interface IPv4Network IPv6Address IPv6Interface "
      ++ "IPv6Network NetmaskValueError",
    "collapse_addresses get_mixed_type_key ip_address ip_interface ip_network "
      ++ "summarize_address_range v4_int_to_packed v6_int_to_packed", "IPV4LENGTH IPV6LENGTH"⟩,
  ⟨"itertools", false,
    "accumulate chain combinations combinations_with_replacement compress count cycle dropwhile "
      ++ "filterfalse groupby islice pairwise permutations product repeat starmap takewhile "
      ++ "zip_longest", "tee", ""⟩]

end WorkspaceLint.GivenModule
